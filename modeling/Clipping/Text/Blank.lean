/-! Blank characters, and what they separate. Text is trimmed, cut into words and
made free of blanks here; all of it is recursion on the characters. -/
namespace Clipping.Text

/-- The white space of Unicode, and the four separators U+001C to U+001F. -/
def isBlank (c : Char) : Bool :=
  let n := c.toNat
  (9 ≤ n && n ≤ 13) || (28 ≤ n && n ≤ 32) || n == 0x85 || n == 0xA0 || n == 0x1680 ||
    (0x2000 ≤ n && n ≤ 0x200A) || n == 0x2028 || n == 0x2029 || n == 0x202F ||
    n == 0x205F || n == 0x3000

def dropBlank (s : List Char) : List Char := s.dropWhile isBlank

def trim (s : List Char) : List Char := (dropBlank (dropBlank s).reverse).reverse

/-- White space proper; the four separators are none. -/
def isSpace (c : Char) : Bool := isBlank c && !(28 ≤ c.toNat && c.toNat ≤ 31)

/-- The text of a number, without the white space around it. -/
def trimSpace (s : List Char) : List Char := ((s.dropWhile isSpace).reverse.dropWhile isSpace).reverse

/-- The maximal runs of characters that are not blank, in order. -/
def words : List Char → List (List Char)
  | [] => []
  | c :: rest =>
    if isBlank c then words rest
    else match rest, words rest with
      | [], _ => [[c]]
      | next :: _, found =>
        if isBlank next then [c] :: found
        else match found with
          | [] => [[c]]
          | word :: others => (c :: word) :: others

/-- Each run of blanks becomes one low line. -/
def underscored : List Char → List Char
  | [] => []
  | c :: rest =>
    if !isBlank c then c :: underscored rest
    else match rest with
      | [] => ['_']
      | next :: _ => if isBlank next then underscored rest else '_' :: underscored rest

/-- The text stands somewhere in the other one. -/
def occursIn (part : List Char) : List Char → Bool
  | [] => part.isEmpty
  | c :: rest => part.isPrefixOf (c :: rest) || occursIn part rest

/-- What follows the given start, if the text starts so. -/
def after? : List Char → List Char → Option (List Char)
  | [], s => some s
  | _ :: _, [] => none
  | a :: start, c :: s => if a = c then after? start s else none

theorem after?_eq_some {start s rest : List Char} : after? start s = some rest ↔ s = start ++ rest := by
  induction start generalizing s with
  | nil => simp [after?, eq_comm]
  | cons a start ih =>
    cases s with
    | nil => simp [after?]
    | cons c s =>
      by_cases h : a = c
      · simp [after?, h, ih]
      · simp [after?, h, Ne.symm h]

theorem dropBlank_eq_self {s : List Char} (h : ∀ c ∈ s.head?, isBlank c = false) : dropBlank s = s := by
  cases s with
  | nil => rfl
  | cons c s => simp [dropBlank, h c (by simp)]

theorem underscored_no_blank (s : List Char) : ∀ c ∈ underscored s, isBlank c = false := by
  induction s with
  | nil => simp [underscored]
  | cons c rest ih =>
    intro d hd
    unfold underscored at hd
    split at hd
    · next h =>
      rcases List.mem_cons.mp hd with rfl | hd
      · simpa using h
      · exact ih d hd
    · split at hd
      · obtain rfl := List.mem_singleton.mp hd; decide
      · split at hd
        · exact ih d hd
        · rcases List.mem_cons.mp hd with rfl | hd
          · decide
          · exact ih d hd

end Clipping.Text

namespace Clipping

def strip (s : String) : String := String.ofList (Text.trim s.toList)

def split (s : String) : List String := (Text.words s.toList).map String.ofList

end Clipping
