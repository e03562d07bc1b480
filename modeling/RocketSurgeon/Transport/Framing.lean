import RocketSurgeon.Lib.Text

/-!
# Message framing

Every message on a pipe or a socket is a header, `Content-Length: n`, a blank line and `n`
bytes of UTF-8 text.  `readMessage` reads header lines up to a blank one, then exactly as
many bytes as the last length it has seen; it takes the bytes that will still arrive and
returns, with its result, those it leaves unread.

A reader at the start of a frame never looks into or past its body: what `writeMessage` has
written is read back, whatever the bodies contain and whatever follows.
-/

namespace RocketSurgeon.Transport

open Lib

def maxMessageBytes : ℕ := 16 * 1024 * 1024

inductive IoFailure
  | unexpectedEof
  | invalidData
  deriving DecidableEq, Repr

inductive FramingError
  | missingContentLength
  | invalidContentLength
  | messageTooLarge (bytes : ℕ)
  | io (failure : IoFailure)
  deriving DecidableEq, Repr

/-- The text of an error; the texts of the standard library are a parameter. -/
def FramingError.display (ioText : IoFailure → String) : FramingError → String
  | .missingContentLength => "missing Content-Length header"
  | .invalidContentLength => "invalid Content-Length value"
  | .messageTooLarge bytes => s!"message too large ({bytes} bytes, max {maxMessageBytes})"
  | .io failure => ioText failure

/-! ## Reading and writing -/

def lineFeed : UInt8 := 10

/-- The bytes up to the next line feed, with it, and those behind; at the end of the stream the
line may lack its line feed. -/
def readLine : List UInt8 → List UInt8 × List UInt8
  | [] => ([], [])
  | byte :: rest =>
      if byte = lineFeed then ([byte], rest)
      else
        let (line, rest) := readLine rest
        (byte :: line, rest)

lemma length_readLine (reader : List UInt8) :
    (readLine reader).1.length + (readLine reader).2.length = reader.length := by
  induction reader with
  | nil => rfl
  | cons byte rest ih =>
    unfold readLine
    split
    · simp [Nat.add_comm]
    · simp only [List.length_cons]
      omega

/-- What a header line that is not blank makes of the length seen so far. -/
def headerField (line : List Char) (contentLength : Option ℕ) : Except FramingError (Option ℕ) :=
  match splitOnce ':' line with
  | none => .ok contentLength
  | some (key, value) =>
      if eqIgnoreAsciiCase key "content-length".toList then
        match parseUnsigned 64 (trim value) with
        | none => .error .invalidContentLength
        | some length => .ok (some length)
      else .ok contentLength

/-- The header loop of `read_message`. -/
def readHeaders (contentLength : Option ℕ) (reader : List UInt8) :
    Except FramingError (Option ℕ) × List UInt8 :=
  let line := readLine reader
  if _hline : line.1 = [] then (.error (.io .unexpectedEof), line.2)
  else
    match ofUtf8 line.1 with
    | none => (.error (.io .invalidData), line.2)
    | some text =>
        let trimmed := text.toList.rdropWhile fun c => c = '\r' || c = '\n'
        if trimmed = [] then (.ok contentLength, line.2)
        else
          match headerField trimmed contentLength with
          | .error failure => (.error failure, line.2)
          | .ok contentLength => readHeaders contentLength line.2
termination_by reader.length
decreasing_by
  have hlen := length_readLine reader
  have hpos : 0 < (readLine reader).1.length := List.length_pos_iff.mpr _hline
  omega

/-- `read_message`, with the bytes it leaves unread. -/
def readMessage (reader : List UInt8) : Except FramingError String × List UInt8 :=
  match readHeaders none reader with
  | (.error failure, rest) => (.error failure, rest)
  | (.ok none, rest) => (.error .missingContentLength, rest)
  | (.ok (some contentLength), rest) =>
      if maxMessageBytes < contentLength then (.error (.messageTooLarge contentLength), rest)
      else if rest.length < contentLength then (.error (.io .unexpectedEof), [])
      else
        match ofUtf8 (rest.take contentLength) with
        | none => (.error (.io .invalidData), rest.drop contentLength)
        | some body => (.ok body, rest.drop contentLength)

/-- The header `write_message` writes in front of a body. -/
def messageHeader (body : String) : String :=
  "Content-Length: " ++ toString body.utf8ByteSize ++ "\r\n\r\n"

/-- `write_message`. -/
def writeMessage (body : String) : List UInt8 := utf8 (messageHeader body) ++ utf8 body

/-- What `calls` calls of `read_message` return, and what they leave unread. -/
def readMessages : ℕ → List UInt8 → List (Except FramingError String) × List UInt8
  | 0, reader => ([], reader)
  | calls + 1, reader =>
      let read := readMessage reader
      let others := readMessages calls read.2
      (read.1 :: others.1, others.2)

/-! ## Header lines -/

lemma readLine_append (hline : lineFeed ∉ line) (rest : List UInt8) :
    readLine (line ++ lineFeed :: rest) = (line ++ [lineFeed], rest) := by
  induction line with
  | nil => simp [readLine]
  | cons byte line ih =>
    rw [List.mem_cons, not_or] at hline
    rw [List.cons_append, readLine, if_neg (Ne.symm hline.1), ih hline.2]
    rfl

lemma readLine_utf8 (hline : '\n' ∉ line.toList) (rest : List UInt8) :
    readLine (utf8 (line ++ "\n") ++ rest) = (utf8 (line ++ "\n"), rest) := by
  have hfeed : utf8 "\n" = [lineFeed] := by rw [utf8_eq_flatMap]; rfl
  have hbytes : lineFeed ∉ utf8 line := not_mem_utf8 (by decide) hline
  rw [utf8_append, hfeed, List.append_assoc]
  exact readLine_append hbytes rest

lemma readHeaders_line {line : String} (hline : '\n' ∉ line.toList) (contentLength : Option ℕ)
    (rest : List UInt8) :
    readHeaders contentLength (utf8 (line ++ "\n") ++ rest) =
      let trimmed := line.toList.rdropWhile fun c => c = '\r' || c = '\n'
      if trimmed = [] then (.ok contentLength, rest)
      else
        match headerField trimmed contentLength with
        | .error failure => (.error failure, rest)
        | .ok contentLength => readHeaders contentLength rest := by
  have hne : utf8 (line ++ "\n") ≠ [] := by
    intro hnil
    have hlen := congrArg List.length hnil
    rw [length_utf8, String.utf8ByteSize_append] at hlen
    have hfeed : "\n".utf8ByteSize = 1 := rfl
    simp only [List.length_nil] at hlen
    omega
  have htrimmed : (line ++ "\n").toList.rdropWhile (fun c => c = '\r' || c = '\n') =
      line.toList.rdropWhile fun c => c = '\r' || c = '\n' := by
    rw [String.toList_append]
    exact List.rdropWhile_concat_pos _ _ _ rfl
  rw [readHeaders, readLine_utf8 hline]
  simp only [hne, ↓reduceDIte, ofUtf8_utf8, htrimmed]

lemma readHeaders_blank (contentLength : Option ℕ) (rest : List UInt8) :
    readHeaders contentLength (utf8 "\r\n" ++ rest) = (.ok contentLength, rest) := by
  have hreturn : '\n' ∉ "\r".toList := by decide
  have hblank : "\r".toList.rdropWhile (fun c => c = '\r' || c = '\n') = [] := by decide
  have hline : "\r\n" = "\r" ++ "\n" := by decide
  rw [hline, readHeaders_line hreturn, hblank]
  exact if_pos rfl

lemma headerField_contentLength (hlen : length < 2 ^ 64) (contentLength : Option ℕ) :
    headerField ("Content-Length: ".toList ++ Nat.toDigits 10 length) contentLength =
      .ok (some length) := by
  have hname : "Content-Length: ".toList = "Content-Length".toList ++ [':', ' '] := by decide
  have hcolon : ':' ∉ "Content-Length".toList := by decide
  have hkey : eqIgnoreAsciiCase "Content-Length".toList "content-length".toList = true := by decide
  rw [hname, List.append_assoc, headerField, List.cons_append, List.cons_append, List.nil_append,
    splitOnce_append hcolon]
  dsimp only
  rw [if_pos hkey, parseUnsigned_trim_toDigits hlen]

/-- The header of a frame, behind a text without line feeds: the text and the length are one
line, and the next line is blank. -/
lemma readHeaders_behind {front : String} (hfront : '\n' ∉ front.toList) (body : String)
    (contentLength : Option ℕ) (rest : List UInt8) :
    readHeaders contentLength (utf8 (front ++ messageHeader body) ++ rest) =
      match headerField (front.toList ++ ("Content-Length: ".toList ++
        Nat.toDigits 10 body.utf8ByteSize)) contentLength with
      | .error failure => (.error failure, utf8 "\r\n" ++ rest)
      | .ok contentLength => (.ok contentLength, rest) := by
  have hdigits : (toString body.utf8ByteSize).toList = Nat.toDigits 10 body.utf8ByteSize := by
    rw [Nat.toString_eq_ofList_toDigits, String.toList_ofList]
  have hisDigit : ∀ c ∈ Nat.toDigits 10 body.utf8ByteSize, c.isDigit = true := fun c hc =>
    Nat.isDigit_of_mem_toDigits (by decide) (by decide) hc
  obtain ⟨line, hdef⟩ : ∃ line, line = front ++ "Content-Length: " ++ toString body.utf8ByteSize ++
    "\r" := ⟨_, rfl⟩
  have hsplit : front ++ messageHeader body = (line ++ "\n") ++ "\r\n" := by
    have hend : "\r\n\r\n" = "\r" ++ ("\n" ++ "\r\n") := by decide
    have hheader : messageHeader body =
      "Content-Length: " ++ toString body.utf8ByteSize ++ "\r\n\r\n" := rfl
    rw [hdef, hheader, hend]
    simp only [String.append_assoc]
  have hline : '\n' ∉ line.toList := by
    intro hmem
    rw [hdef] at hmem
    simp only [String.toList_append, List.mem_append, hdigits] at hmem
    rcases hmem with ((hmem | hname) | hdigit) | hreturn
    · exact hfront hmem
    · exact absurd hname (by decide)
    · exact absurd (hisDigit _ hdigit) (by decide)
    · exact absurd hreturn (by decide)
  set field := front.toList ++ ("Content-Length: ".toList ++ Nat.toDigits 10 body.utf8ByteSize)
    with hfield
  have hne : field ≠ [] := by
    intro hnil
    have hdigits := (List.append_eq_nil_iff.mp (List.append_eq_nil_iff.mp hnil).2).2
    exact Nat.toDigits_ne_nil hdigits
  -- The last character of the field is a digit, so that only the carriage return is stripped.
  have htrimmed : line.toList.rdropWhile (fun c => c = '\r' || c = '\n') = field := by
    have hconcat : line.toList = field ++ ['\r'] := by
      rw [hdef, hfield]
      simp only [String.toList_append, hdigits, List.append_assoc]
      rfl
    have hlast : field.getLast hne ∈ Nat.toDigits 10 body.utf8ByteSize := by
      have hlast? : field.getLast? = (Nat.toDigits 10 body.utf8ByteSize).getLast? := by
        rw [hfield, ← List.append_assoc, List.getLast?_append_of_ne_nil _ Nat.toDigits_ne_nil]
      rw [List.getLast?_eq_some_getLast hne] at hlast?
      exact List.mem_of_getLast? hlast?.symm
    rw [hconcat, List.rdropWhile_concat_pos _ _ _ rfl]
    refine List.rdropWhile_eq_self_iff.mpr fun _ hstripped => ?_
    have hdigit := hisDigit _ hlast
    simp only [Bool.or_eq_true, decide_eq_true_eq] at hstripped
    rcases hstripped with heq | heq
    · rw [heq] at hdigit
      exact absurd hdigit (by decide)
    · rw [heq] at hdigit
      exact absurd hdigit (by decide)
  have hbytes : utf8 (front ++ messageHeader body) ++ rest =
      utf8 (line ++ "\n") ++ (utf8 "\r\n" ++ rest) := by
    rw [hsplit, utf8_append _, List.append_assoc]
  rw [hbytes, readHeaders_line hline, htrimmed]
  simp only [hne, ↓reduceIte]
  cases headerField field contentLength with
  | error failure => rfl
  | ok contentLength => exact readHeaders_blank contentLength rest

lemma readHeaders_messageHeader (hlen : body.utf8ByteSize < 2 ^ 64) (contentLength : Option ℕ)
    (rest : List UInt8) :
    readHeaders contentLength (utf8 (messageHeader body) ++ rest) =
      (.ok (some body.utf8ByteSize), rest) := by
  have hnothing : '\n' ∉ "".toList := by decide
  have hfield := headerField_contentLength hlen contentLength
  have hheader : messageHeader body = "" ++ messageHeader body := String.empty_append.symm
  rw [hheader, readHeaders_behind hnothing]
  simp only [String.toList_empty, List.nil_append, hfield]

/-! ## Round trip -/

lemma readMessage_writeMessage (hbody : body.utf8ByteSize ≤ maxMessageBytes) (rest : List UInt8) :
    readMessage (writeMessage body ++ rest) = (.ok body, rest) := by
  have hword : body.utf8ByteSize < 2 ^ 64 := lt_of_le_of_lt hbody (by decide)
  have htake : (utf8 body ++ rest).take body.utf8ByteSize = utf8 body :=
    List.take_left' (length_utf8 body)
  have hdrop : (utf8 body ++ rest).drop body.utf8ByteSize = rest :=
    List.drop_left' (length_utf8 body)
  have hroom : ¬ (utf8 body ++ rest).length < body.utf8ByteSize := by
    rw [List.length_append, length_utf8]
    omega
  rw [readMessage, writeMessage, List.append_assoc, readHeaders_messageHeader hword]
  simp only [not_lt.mpr hbody, ↓reduceIte, hroom, htake, hdrop, ofUtf8_utf8]

/-- A frame that is too large is refused behind its header: the body stays in the stream. -/
lemma readMessage_tooLarge (hbody : maxMessageBytes < body.utf8ByteSize)
    (hword : body.utf8ByteSize < 2 ^ 64) (rest : List UInt8) :
    readMessage (writeMessage body ++ rest) =
      (.error (.messageTooLarge body.utf8ByteSize), utf8 body ++ rest) := by
  rw [readMessage, writeMessage, List.append_assoc, readHeaders_messageHeader hword]
  simp only [hbody, ↓reduceIte]

/-- A run of frames is read call by call; by induction on the frames, each call ends at the start
of the next one. -/
lemma readMessages_frames {bodies : List String}
    (hbodies : ∀ body ∈ bodies, body.utf8ByteSize ≤ maxMessageBytes) (calls : ℕ)
    (rest : List UInt8) :
    readMessages (bodies.length + calls) (bodies.flatMap writeMessage ++ rest) =
      (bodies.map .ok ++ (readMessages calls rest).1, (readMessages calls rest).2) := by
  induction bodies with
  | nil => simp
  | cons body bodies ih =>
    have hbody := hbodies body List.mem_cons_self
    have hothers : ∀ other ∈ bodies, other.utf8ByteSize ≤ maxMessageBytes := fun other hother =>
      hbodies other (List.mem_cons_of_mem body hother)
    have hlen : (body :: bodies).length + calls = bodies.length + calls + 1 := by
      rw [List.length_cons]
      omega
    rw [List.flatMap_cons, List.append_assoc, hlen, readMessages,
      readMessage_writeMessage hbody, ih hothers]
    rfl

/-- **The bodies come back in order and nothing else is read.** -/
theorem readMessages_writeMessages (bodies : List String) (trailing : List UInt8)
    (hbodies : ∀ body ∈ bodies, body.utf8ByteSize ≤ maxMessageBytes) :
    readMessages bodies.length (bodies.flatMap writeMessage ++ trailing) =
      (bodies.map .ok, trailing) := by
  simpa [readMessages] using readMessages_frames hbodies 0 trailing

/-- A body may itself look like a frame. -/
theorem readMessages_frame_in_body :
    readMessages 2 (["Content-Length: 3\r\n\r\né", ""].flatMap writeMessage ++ [13, 10]) =
      (["Content-Length: 3\r\n\r\né", ""].map .ok, [13, 10]) :=
  readMessages_writeMessages ["Content-Length: 3\r\n\r\né", ""] [13, 10] (by decide)

end RocketSurgeon.Transport
