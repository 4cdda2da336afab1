/-!
# Splitting and trimming text

Text cut at every occurrence of a separator, the parts put together again, and text without the
white space around it. The wide class of white space holds the separators and the control characters
that divide text; the narrow one, used where a grammar follows the Unicode property White_Space
alone, leaves out the four information separators.
-/

namespace CredentialWrite.Text

/-- The parts between separators; there is always one more than there are separators. -/
def split (separator : Char) : List Char → List (List Char)
  | [] => [[]]
  | c :: rest =>
    if c = separator then [] :: split separator rest
    else match split separator rest with
      | [] => [[c]]
      | part :: parts => (c :: part) :: parts

def join (separator : Char) : List (List Char) → List Char
  | [] => []
  | [part] => part
  | part :: parts => part ++ separator :: join separator parts

/-- The text before the first separator and, where there is one, the text after it. -/
def cut (separator : Char) (cs : List Char) : List Char × Option (List Char) :=
  match cs.dropWhile (· != separator) with
  | [] => (cs, none)
  | _ :: rest => (cs.takeWhile (· != separator), some rest)

theorem split_ne_nil (separator : Char) (cs : List Char) : split separator cs ≠ [] := by
  cases cs with
  | nil => simp [split]
  | cons c rest =>
    simp only [split]
    split
    · simp
    · split <;> simp

theorem join_split (separator : Char) (cs : List Char) :
    join separator (split separator cs) = cs := by
  induction cs with
  | nil => rfl
  | cons c rest ih =>
    cases hs : split separator rest with
    | nil => exact absurd hs (split_ne_nil separator rest)
    | cons part parts =>
      rw [hs] at ih
      by_cases h : c = separator
      · rw [split, if_pos h, hs, join, ih, h]
        · rfl
        · exact List.cons_ne_nil _ _
      · rw [split, if_neg h, hs]
        cases parts with
        | nil => simpa [join] using ih
        | cons next parts => simpa [join] using ih

/-- The text before the first separator has none. -/
theorem cut_append {separator : Char} {before : List Char} (h : separator ∉ before)
    (after : List Char) : cut separator (before ++ separator :: after) = (before, some after) := by
  have other : ∀ c ∈ before, (c != separator) = true := by
    intro c hc
    simp only [bne_iff_ne, ne_eq]
    rintro rfl
    exact h hc
  rw [cut, List.dropWhile_append_of_pos other, List.takeWhile_append_of_pos other,
    List.dropWhile_cons_of_neg (by simp), List.takeWhile_cons_of_neg (by simp), List.append_nil]

def isWhiteSpace (c : Char) : Bool :=
  let n := c.toNat
  (9 ≤ n && n ≤ 13) || n = 0x20 || n = 0x85 || n = 0xA0 || n = 0x1680 ||
    (0x2000 ≤ n && n ≤ 0x200A) || n = 0x2028 || n = 0x2029 || n = 0x202F || n = 0x205F ||
    n = 0x3000

def isBlank (c : Char) : Bool := isWhiteSpace c || (0x1C ≤ c.toNat && c.toNat ≤ 0x1F)

/-- The content without the characters of a class at either end. -/
def trimBoth (drop : Char → Bool) (cs : List Char) : List Char :=
  ((cs.dropWhile drop).reverse.dropWhile drop).reverse

end CredentialWrite.Text
