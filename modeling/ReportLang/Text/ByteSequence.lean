/-!
# Byte sequences

The encodings of sets of characters as sequences of byte ranges. A set of characters that are close
to each other often takes a single sequence, because their encodings differ in the last byte only.
-/

namespace ReportLang.Text

/-- The bytes from `first` to `last`. -/
structure ByteRange where
  /-- The least byte. -/
  first : UInt8
  /-- The greatest byte. -/
  last : UInt8
deriving DecidableEq

/-- A byte from the first range, then one from the second, and so on. -/
abbrev ByteSequence := List ByteRange

namespace ByteSequence

/-- The encoding of a character. -/
def ofChar (c : Char) : ByteSequence :=
  (String.utf8EncodeChar c).map fun byte => ⟨byte, byte⟩

/-- The sequence for what two sequences encode, if they differ in their last ranges only and those
follow each other without a gap. -/
def join? : ByteSequence → ByteSequence → Option ByteSequence
  | [low], [high] =>
    if low.last.toNat + 1 = high.first.toNat then some [⟨low.first, high.last⟩] else none
  | low :: lows, high :: highs => if low = high then (join? lows highs).map (low :: ·) else none
  | _, _ => none

/-- The sequences that encode one of the given characters, which are in the order of their codes. -/
def ofChars : List Char → List ByteSequence
  | [] => []
  | c :: rest =>
    match ofChars rest with
    | [] => [ofChar c]
    | next :: others =>
      match join? (ofChar c) next with
      | some joined => joined :: others
      | none => ofChar c :: next :: others

/-- The sequences that encode any character at all. Surrogates are left out, and so are encodings
that are longer than they need to be. -/
def ofAnyChar : List ByteSequence :=
  let continuation : ByteRange := ⟨0x80, 0xBF⟩
  [[⟨0x00, 0x7F⟩],
    [⟨0xC2, 0xDF⟩, continuation],
    [⟨0xE0, 0xE0⟩, ⟨0xA0, 0xBF⟩, continuation],
    [⟨0xE1, 0xEC⟩, continuation, continuation],
    [⟨0xED, 0xED⟩, ⟨0x80, 0x9F⟩, continuation],
    [⟨0xEE, 0xEF⟩, continuation, continuation],
    [⟨0xF0, 0xF0⟩, ⟨0x90, 0xBF⟩, continuation, continuation],
    [⟨0xF1, 0xF3⟩, continuation, continuation, continuation],
    [⟨0xF4, 0xF4⟩, ⟨0x80, 0x8F⟩, continuation, continuation]]

end ByteSequence

end ReportLang.Text
