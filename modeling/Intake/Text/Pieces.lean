/-!
# Pieces of text

Where a text is cut at another: what lies before and behind its first occurrence, the pieces
between all occurrences, and the text with each occurrence exchanged.
-/

namespace Intake.Text

/-- The text before the first occurrence of a character and, if there is one, the text behind
    it. -/
def cutAt (mark : Char) (s : List Char) : List Char × Option (List Char) :=
  match s.dropWhile (· != mark) with
  | [] => (s, none)
  | _ :: rest => (s.takeWhile (· != mark), some rest)

/-- The pieces between the occurrences of a character; there is one more than occurrences. -/
def splitAt (mark : Char) : List Char → List (List Char)
  | [] => [[]]
  | c :: rest =>
    match splitAt mark rest with
    | [] => [[]]
    | piece :: pieces =>
      if c == mark then [] :: piece :: pieces else (c :: piece) :: pieces

/-- The text with each occurrence of `old` exchanged for `new`, where the first `skip` characters
    belong to an occurrence already exchanged. -/
def exchangeFrom (old new : List Char) (skip : Nat) : List Char → List Char
  | [] => []
  | c :: rest =>
    match skip with
    | n + 1 => exchangeFrom old new n rest
    | 0 =>
      if old.isPrefixOf (c :: rest) then new ++ exchangeFrom old new (old.length - 1) rest
      else c :: exchangeFrom old new 0 rest

/-- The text with each occurrence of `old` exchanged for `new`. -/
def exchange (old new s : List Char) : List Char :=
  exchangeFrom old new 0 s

end Intake.Text
