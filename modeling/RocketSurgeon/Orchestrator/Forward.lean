import RocketSurgeon.Protocol.Messages
import RocketSurgeon.Transport.Framing

/-!
# Forwarding to the worker

The orchestrator passes a request on to the worker and reads the worker's response from its
pipe.  A response that cannot be read is reported as an error and the pipe is used again for
the next request, from wherever the reader has stopped.

For a frame that is too large that is the first byte of its body.  The next call takes the
body for a header: a reader that has refused a frame is out of step with the writer.  So the
calls answer their own frames, whatever these contain, exactly if every frame but the last
is small enough.
-/

namespace RocketSurgeon.Orchestrator

open Lib Protocol Transport List

variable {R : Type} {body : String} {size : ℕ}

/-! ## The worker's pipe -/

/-- The handle of a worker: what it has written and nobody has read yet. -/
structure WorkerHandle where
  unread : List UInt8

structure OrchestratorState where
  worker : Option WorkerHandle

/-- What happens on the worker's side while one request is forwarded: whether the process is
alive, whether the request can be sent, and the text of the response. -/
structure Exchange where
  alive : Bool
  sent : Except String Unit
  response : String

/-- The libraries the orchestrator uses: the parser of responses and the texts of I/O errors. -/
structure Codec (R : Type) where
  fromStr : String → Except String R
  ioText : IoFailure → String

/-- `recv_response`.  A pipe whose writer is alive has no end: a call that needs more bytes than
there are waits for them, and has no result. -/
def recvResponse (codec : Codec R) (handle : WorkerHandle) :
    Option (Except String R) × WorkerHandle :=
  match readMessage handle.unread with
  | (.error (.io .unexpectedEof), rest) => (none, ⟨rest⟩)
  | (.error failure, rest) =>
      (some (.error s!"framing error: {failure.display codec.ioText}"), ⟨rest⟩)
  | (.ok json, rest) =>
      match codec.fromStr json with
      | .error message => (some (.error s!"JSON error: {message}"), ⟨rest⟩)
      | .ok response => (some (.ok response), ⟨rest⟩)

/-- An error of the orchestrator itself. -/
def failed (message : String) : Except RpcError R := .error ⟨internalError, message, none⟩

/-- What is made of a response that was read, or could not be. -/
def workerAnswer : Except String R → Except RpcError R
  | .ok response => .ok response
  | .error message => failed s!"Worker failed: {message}"

/-- `forward_to_worker`. -/
def forwardToWorker (codec : Codec R) (st : OrchestratorState) (exchange : Exchange) :
    Option (Except RpcError R) × OrchestratorState :=
  match st.worker with
  | none => (some (failed "No worker running"), st)
  | some handle =>
      if !exchange.alive then (some (failed "Worker process is no longer running"), ⟨none⟩)
      else
        match exchange.sent with
        | .error message => (some (failed s!"Failed to send request to worker: {message}"), st)
        | .ok () =>
            let received := recvResponse codec ⟨handle.unread ++ writeMessage exchange.response⟩
            (received.1.map workerAnswer, ⟨some received.2⟩)

/-- The answers to a sequence of forwarded requests.  Behind a call that waits there are none. -/
def forwardAll (codec : Codec R) : OrchestratorState → List Exchange →
    List (Option (Except RpcError R))
  | _, [] => []
  | st, exchange :: exchanges =>
      match forwardToWorker codec st exchange with
      | (none, _) => none :: exchanges.map fun _ => none
      | (some answer, st) => some answer :: forwardAll codec st exchanges

/-! ## Frames in step -/

/-- A call answers its own frame: it returns the body or an error, and the body if it is small
enough. -/
def OwnFrame (body : String) (result : Except FramingError String) : Prop :=
  (∀ text, result = .ok text → text = body) ∧
    (body.utf8ByteSize ≤ maxMessageBytes → result = .ok body)

/-- A worker that is alive, gets the request and responds with `body`. -/
def Exchange.served (body : String) : Exchange := ⟨true, .ok (), body⟩

/-- The worker's own response to a request. -/
def ownResponse (codec : Codec R) (body : String) : Except RpcError R :=
  match codec.fromStr body with
  | .ok response => .ok response
  | .error message => failed s!"Worker failed: JSON error: {message}"

/-- Reader and writer stay in step over a list of bodies: every call of `read_message` answers its
own frame, and every forwarded request whose response can be read gets the worker's response to
it. -/
structure InStep (codec : Codec R) (bodies : List String) : Prop where
  calls : List.Forall₂ OwnFrame bodies
    (readMessages bodies.length (bodies.flatMap writeMessage)).1
  forwarded : List.Forall₂
    (fun body answer => body.utf8ByteSize ≤ maxMessageBytes → answer = some (ownResponse codec body))
    bodies (forwardAll codec ⟨some ⟨[]⟩⟩ (bodies.map Exchange.served))

/-! ## A refused last frame does no harm -/

lemma ownFrame_ok (body : String) : OwnFrame body (.ok body) :=
  ⟨fun _ htext => (Except.ok.inj htext).symm, fun _ => rfl⟩

lemma ownFrame_tooLarge (hbody : maxMessageBytes < body.utf8ByteSize) (failure : FramingError) :
    OwnFrame body (.error failure) :=
  ⟨fun _ htext => (nomatch htext), fun hsmall => absurd hbody (not_lt.mpr hsmall)⟩

lemma forwardToWorker_served (codec : Codec R) (hbody : body.utf8ByteSize ≤ maxMessageBytes) :
    forwardToWorker codec ⟨some ⟨[]⟩⟩ (.served body) =
      (some (ownResponse codec body), ⟨some ⟨[]⟩⟩) := by
  have hread : readMessage ([] ++ writeMessage body) = (.ok body, []) := by
    have hframe := readMessage_writeMessage hbody []
    rwa [append_nil] at hframe
  simp only [forwardToWorker, Exchange.served, Bool.not_true, Bool.false_eq_true, ↓reduceIte,
    recvResponse, hread, ownResponse]
  cases codec.fromStr body with
  | error msg | ok resp => rfl

lemma forwardAll_served (codec : Codec R) {bodies : List String}
    (hbodies : ∀ body ∈ bodies, body.utf8ByteSize ≤ maxMessageBytes) (exchanges : List Exchange) :
    forwardAll codec ⟨some ⟨[]⟩⟩ (bodies.map .served ++ exchanges) =
      bodies.map (fun body => some (ownResponse codec body)) ++
        forwardAll codec ⟨some ⟨[]⟩⟩ exchanges := by
  induction bodies with
  | nil => rfl
  | cons body bodies ih =>
    rw [forall_mem_cons] at hbodies
    simp only [map_cons, cons_append, forwardAll, forwardToWorker_served codec hbodies.1,
      ih hbodies.2]

/-- A list of frames all but the last of which are small enough is read in step. -/
lemma inStep_of_small (codec : Codec R) (hword : ∀ body ∈ bodies, body.utf8ByteSize < 2 ^ 64)
    (hsmall : ∀ body ∈ bodies.dropLast, body.utf8ByteSize ≤ maxMessageBytes) :
    InStep codec bodies := by
  rcases eq_nil_or_concat bodies with rfl | ⟨init, last, rfl⟩
  · exact ⟨.nil, .nil⟩
  · rw [concat_eq_append] at hword hsmall ⊢
    rw [dropLast_concat] at hsmall
    have hlast : last.utf8ByteSize < 2 ^ 64 := hword last (by simp)
    have hinit : List.Forall₂ OwnFrame init (init.map .ok) :=
      forall₂_map_right_iff.mpr (forall₂_same.mpr fun body _ => ownFrame_ok body)
    refine ⟨?_, ?_⟩
    · rw [length_append, flatMap_append, readMessages_frames hsmall]
      refine rel_append hinit ?_
      rcases le_or_gt last.utf8ByteSize maxMessageBytes with hle | hgt
      · have hread := readMessage_writeMessage hle []
        simp only [flatMap_cons, flatMap_nil, length_singleton, readMessages, hread]
        exact .cons (ownFrame_ok last) .nil
      · have hread := readMessage_tooLarge hgt hlast []
        simp only [flatMap_cons, flatMap_nil, length_singleton, readMessages, hread]
        exact .cons (ownFrame_tooLarge hgt _) .nil
    · rw [map_append, forwardAll_served codec hsmall]
      refine rel_append ?_ ?_
      · exact forall₂_map_right_iff.mpr (forall₂_same.mpr fun body _ _ => rfl)
      · rcases le_or_gt last.utf8ByteSize maxMessageBytes with hle | hgt
        · simp only [map_cons, map_nil, forwardAll, forwardToWorker_served codec hle]
          exact .cons (fun _ => rfl) .nil
        · obtain ⟨answer, hanswer⟩ : ∃ answer, forwardAll codec ⟨some ⟨[]⟩⟩ [.served last] =
              [answer] := by
            simp only [forwardAll]
            split
            · exact ⟨_, rfl⟩
            · exact ⟨_, rfl⟩
          rw [map_cons, map_nil, hanswer]
          exact .cons (fun hle => absurd hgt (not_lt.mpr hle)) .nil

/-! ## A refused frame before another one does -/

/-- A text of the given size on one line. -/
def filler (size : ℕ) : String := String.ofList (List.replicate size 'a')

@[simp] lemma toList_filler (size : ℕ) : (filler size).toList = replicate size 'a' :=
  String.toList_ofList

@[simp] lemma utf8ByteSize_filler (size : ℕ) : (filler size).utf8ByteSize = size := by
  have hbyte : String.utf8EncodeChar 'a' = [97] := by decide
  rw [← length_utf8, utf8_eq_flatMap, toList_filler, length_flatMap, map_replicate,
    hbyte, sum_replicate]
  simp

/-- The frame behind a refused one is read from the refused body on.  If that is not an answer to
the frame, reader and writer are out of step. -/
lemma not_inStep_of_behind {next : String} (codec : Codec R)
    (hsmall : ∀ body ∈ small, body.utf8ByteSize ≤ maxMessageBytes)
    (hrejected : maxMessageBytes < refused.utf8ByteSize) (hword : refused.utf8ByteSize < 2 ^ 64)
    (hbehind : ∀ rest, ¬ OwnFrame next (readMessage (utf8 refused ++ (writeMessage next ++ rest))).1) :
    ¬ InStep codec (small ++ refused :: next :: others) := by
  intro hstep
  have hcalls := hstep.calls
  rw [length_append, flatMap_append, readMessages_frames hsmall] at hcalls
  have hdrop := forall₂_drop small.length hcalls
  rw [drop_left, drop_left' (length_map _)] at hdrop
  simp only [flatMap_cons, length_cons, readMessages,
    readMessage_tooLarge hrejected hword] at hdrop
  cases hdrop with
  | cons _ hdrop =>
    cases hdrop with
    | cons hnext _ => exact hbehind _ hnext

/-- Behind one line of text, the length of the next frame belongs to no field. -/
lemma readMessage_behind_filler (hsize : 0 < size) (body : String) (rest : List UInt8) :
    readMessage (utf8 (filler size) ++ (writeMessage body ++ rest)) =
      (.error .missingContentLength, utf8 body ++ rest) := by
  have hline : '\n' ∉ (filler size).toList := by
    rw [toList_filler]
    exact fun hmem => absurd (eq_of_mem_replicate hmem) (by decide)
  have hname : "Content-Length: ".toList = "Content-Length".toList ++ [':', ' '] := by decide
  have hcolon : ':' ∉ replicate size 'a' ++ "Content-Length".toList := by
    rw [mem_append, not_or]
    exact ⟨fun hmem => absurd (eq_of_mem_replicate hmem) (by decide), by decide⟩
  have hkey : eqIgnoreAsciiCase (replicate size 'a' ++ "Content-Length".toList)
      "content-length".toList = false := by
    have hlen : "Content-Length".toList.length = "content-length".toList.length := by decide
    rw [eqIgnoreAsciiCase, beq_eq_false_iff_ne]
    intro heq
    have hsame := congrArg length heq
    rw [length_map, length_map, length_append, length_replicate] at hsame
    omega
  have hfield : headerField ((filler size).toList ++ ("Content-Length: ".toList ++
      Nat.toDigits 10 body.utf8ByteSize)) none = .ok none := by
    rw [toList_filler, hname, append_assoc, ← append_assoc, headerField, cons_append,
      splitOnce_append hcolon]
    dsimp only
    rw [hkey]
    rfl
  have hbytes : utf8 (filler size) ++ (writeMessage body ++ rest) =
      utf8 (filler size ++ messageHeader body) ++ (utf8 body ++ rest) := by
    rw [writeMessage, utf8_append, append_assoc, append_assoc]
  rw [readMessage, hbytes, readHeaders_behind hline, hfield]

/-- A refused body that starts like a frame is read as that frame. -/
lemma readMessage_behind_frame (front : String) (rest : List UInt8) :
    (readMessage (utf8 (messageHeader "" ++ front) ++ rest)).1 = .ok "" := by
  have hempty : writeMessage "" = utf8 (messageHeader "") := append_nil _
  have hsize : "".utf8ByteSize ≤ maxMessageBytes := Nat.zero_le _
  rw [utf8_append, append_assoc, ← hempty, readMessage_writeMessage hsize]

/-- For every pair of sizes, the first of them too large, there are bodies of these sizes with
which the second frame is not answered. -/
lemma exists_behind {next : ℕ} (hsize : maxMessageBytes < size) :
    ∃ refused body : String, refused.utf8ByteSize = size ∧ body.utf8ByteSize = next ∧
      ∀ rest, ¬ OwnFrame body (readMessage (utf8 refused ++ (writeMessage body ++ rest))).1 := by
  have hmax : 21 ≤ maxMessageBytes := by decide
  rcases le_or_gt next maxMessageBytes with hle | hgt
  · refine ⟨filler size, filler next, utf8ByteSize_filler _, utf8ByteSize_filler _, ?_⟩
    intro rest hown
    have hread := hown.2 (by rwa [utf8ByteSize_filler])
    rw [readMessage_behind_filler (by omega)] at hread
    exact nomatch hread
  · refine ⟨messageHeader "" ++ filler (size - 21), filler next, ?_, utf8ByteSize_filler _, ?_⟩
    · have hheader : (messageHeader "").utf8ByteSize = 21 := by decide
      rw [String.utf8ByteSize_append, utf8ByteSize_filler, hheader]
      omega
    · intro rest hown
      have hempty := congrArg String.utf8ByteSize (hown.1 "" (readMessage_behind_frame _ _))
      rw [utf8ByteSize_filler, String.utf8ByteSize_empty] at hempty
      omega

lemma exists_bodies (sizes : List ℕ) :
    ∃ bodies : List String, bodies.map String.utf8ByteSize = sizes :=
  ⟨sizes.map filler, by simp [Function.comp_def]⟩

/-- **Frames of given sizes are read in step, whatever they contain, exactly if all but the last
are small enough.** -/
theorem inStep_iff_sizes (codec : Codec R) (sizes : List UInt64) :
    (∀ bodies : List String, bodies.map String.utf8ByteSize = sizes.map UInt64.toNat →
        InStep codec bodies) ↔
      ∀ size ∈ sizes.dropLast, size.toNat ≤ maxMessageBytes := by
  refine ⟨fun hstep => ?_, fun hsmall bodies hbodies => ?_⟩
  · by_contra hbad
    -- The first frame that is refused, and all before it are read.
    obtain ⟨size, hfind⟩ : ∃ size, sizes.dropLast.find? (maxMessageBytes < ·.toNat) = some size := by
      rw [← Option.isSome_iff_exists, find?_isSome]
      simpa using hbad
    obtain ⟨hsize, before, behind, hdropped, hbefore⟩ := find?_eq_some_iff_append.mp hfind
    simp only [decide_eq_true_eq, Bool.not_eq_true', decide_eq_false_iff_not, not_lt] at hsize hbefore
    have hne : sizes ≠ [] := by
      rintro rfl
      simp at hdropped
    obtain ⟨next, others, hsplit⟩ : ∃ next others, sizes = before ++ size :: next :: others := by
      have hconcat := dropLast_append_getLast hne
      rw [hdropped, append_assoc, cons_append] at hconcat
      cases behind with
      | nil => exact ⟨_, [], hconcat.symm⟩
      | cons next others => exact ⟨next, _, hconcat.symm⟩
    obtain ⟨refused, body, hrefused, hbody, hbehind⟩ := @exists_behind _ next.toNat hsize
    obtain ⟨small, hsmall⟩ := exists_bodies (before.map UInt64.toNat)
    obtain ⟨rest, hrest⟩ := exists_bodies (others.map UInt64.toNat)
    have hbodies : (small ++ refused :: body :: rest).map String.utf8ByteSize =
        sizes.map UInt64.toNat := by
      rw [hsplit]
      simp [hsmall, hrest, hrefused, hbody]
    refine not_inStep_of_behind codec ?_ ?_ ?_ hbehind (hstep _ hbodies)
    · intro other hother
      have hmem : other.utf8ByteSize ∈ before.map UInt64.toNat :=
        hsmall ▸ mem_map_of_mem hother
      obtain ⟨word, hword, heq⟩ := mem_map.mp hmem
      exact heq ▸ hbefore word hword
    · rwa [hrefused]
    · rw [hrefused]
      exact size.toNat_lt
  · have hsize : ∀ body ∈ bodies, body.utf8ByteSize < 2 ^ 64 := by
      intro body hbody
      have hmem : body.utf8ByteSize ∈ sizes.map UInt64.toNat := hbodies ▸ mem_map_of_mem hbody
      obtain ⟨word, -, heq⟩ := mem_map.mp hmem
      exact heq ▸ word.toNat_lt
    refine inStep_of_small codec hsize fun body hbody => ?_
    have hmem : body.utf8ByteSize ∈ (bodies.dropLast).map String.utf8ByteSize :=
      mem_map_of_mem hbody
    rw [map_dropLast, hbodies, ← map_dropLast] at hmem
    obtain ⟨word, hword, heq⟩ := mem_map.mp hmem
    exact heq ▸ hsmall word hword

/-- A worker response that cannot be read is answered with the reason, and the pipe is kept as the
reader has left it. -/
lemma forwardToWorker_unreadable (codec : Codec R) {failure : FramingError}
    (hfailure : failure ≠ .io .unexpectedEof)
    (hread : readMessage (unread ++ writeMessage body) = (.error failure, rest)) :
    forwardToWorker codec ⟨some ⟨unread⟩⟩ (.served body) =
      (some (failed s!"Worker failed: framing error: {failure.display codec.ioText}"),
        ⟨some ⟨rest⟩⟩) := by
  simp only [forwardToWorker, Exchange.served, Bool.not_true, Bool.false_eq_true, ↓reduceIte,
    recvResponse, hread]
  cases failure with
  | missingContentLength | invalidContentLength | messageTooLarge bytes => rfl
  | io failure =>
    cases failure with
    | unexpectedEof => exact absurd rfl hfailure
    | invalidData => rfl

/-- A response of one line that is too large is refused, and the next one is lost with it. -/
lemma forwardAll_behind_filler (codec : Codec R) (hsize : maxMessageBytes < size)
    (hword : size < 2 ^ 64) (body : String) :
    forwardAll codec ⟨some ⟨[]⟩⟩ [.served (filler size), .served body] =
      [some (failed s!"Worker failed: framing error: message too large ({size} bytes, max {maxMessageBytes})"),
        some (failed "Worker failed: framing error: missing Content-Length header")] := by
  have hlarge : maxMessageBytes < (filler size).utf8ByteSize := by rwa [utf8ByteSize_filler]
  have hrejected : readMessage ([] ++ writeMessage (filler size)) =
      (.error (.messageTooLarge size), utf8 (filler size)) := by
    have hread := readMessage_tooLarge hlarge (by rwa [utf8ByteSize_filler]) []
    rwa [append_nil, append_nil, utf8ByteSize_filler] at hread
  have hbehind : readMessage (utf8 (filler size) ++ writeMessage body) =
      (.error .missingContentLength, utf8 body) := by
    have hread := readMessage_behind_filler (Nat.zero_lt_of_lt hsize) body []
    rwa [append_nil, append_nil] at hread
  simp only [forwardAll, forwardToWorker_unreadable codec FramingError.noConfusion hrejected,
    forwardToWorker_unreadable codec FramingError.noConfusion hbehind]
  rfl

/-- Responses as texts. -/
def echo : Codec String := ⟨.ok, fun _ => "failed"⟩

/-- One response of a byte too many, and the next one is lost although it is small. -/
theorem not_inStep_byte_too_many :
    ¬ InStep echo [filler (maxMessageBytes + 1), "ok"] ∧
      forwardAll echo ⟨some ⟨[]⟩⟩ [.served (filler (maxMessageBytes + 1)), .served "ok"] =
        [some (failed
            "Worker failed: framing error: message too large (16777217 bytes, max 16777216)"),
          some (failed "Worker failed: framing error: missing Content-Length header")] := by
  have hsize : maxMessageBytes < maxMessageBytes + 1 := Nat.lt_succ_self _
  have hforwarded := forwardAll_behind_filler echo hsize (by decide) "ok"
  refine ⟨fun hstep => ?_, hforwarded⟩
  have hanswers := hstep.forwarded
  rw [map_cons, map_cons, map_nil, hforwarded, forall₂_cons,
    forall₂_cons] at hanswers
  exact nomatch hanswers.2.1 (by decide)

end RocketSurgeon.Orchestrator
