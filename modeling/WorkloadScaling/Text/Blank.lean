import WorkloadScaling.Text.Ranges

/-!
# Blank characters

A blank is a character with the Unicode property `White_Space`. `trim` takes the blanks off
both ends of a text.
-/
namespace WorkloadScaling.Text

def blankRanges : Ranges :=
  [(0x9, 0xD), (0x20, 0x20), (0x85, 0x85), (0xA0, 0xA0), (0x1680, 0x1680), (0x2000, 0x200A),
    (0x2028, 0x2029), (0x202F, 0x202F), (0x205F, 0x205F), (0x3000, 0x3000)]

def isBlank (c : Char) : Bool := blankRanges.contains c

def trimStart (s : List Char) : List Char := s.dropWhile isBlank

def trimEnd (s : List Char) : List Char := (s.reverse.dropWhile isBlank).reverse

def trim (s : List Char) : List Char := trimEnd (trimStart s)

theorem isBlank_of_trimStart {s : List Char} {c : Char} {rest : List Char}
    (h : trimStart s = c :: rest) : isBlank c = false := by
  induction s with
  | nil => simp [trimStart] at h
  | cons a s ih =>
    by_cases ha : isBlank a
    · exact ih (by simpa [trimStart, ha] using h)
    · simp only [trimStart, List.dropWhile_cons, ha] at h
      simp at h
      simp [← h.1, ha]

end WorkloadScaling.Text
