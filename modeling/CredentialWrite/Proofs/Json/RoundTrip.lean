import CredentialWrite.Proofs.Json.Floats
import CredentialWrite.Proofs.Json.Strings

/-!
# Reading what was written

A tree that is written as text and read again is the same tree: the same entries in the same order,
the same texts and integers, and in the place of every other number the text of it. This holds
whatever the texts contain, as long as the texts of the numbers are numbers of JSON.
-/

namespace CredentialWrite.Json

open Text

variable {ν : Type} {number : ν → List Char}

mutual

def AllNumbers (P : ν → Prop) : Json ν → Prop
  | .number x => P x
  | .array items => AllNumbersOfItems P items
  | .object entries => AllNumbersOfEntries P entries
  | _ => True

def AllNumbersOfItems (P : ν → Prop) : List (Json ν) → Prop
  | [] => True
  | j :: rest => AllNumbers P j ∧ AllNumbersOfItems P rest

def AllNumbersOfEntries (P : ν → Prop) : List (String × Json ν) → Prop
  | [] => True
  | (_, j) :: rest => AllNumbers P j ∧ AllNumbersOfEntries P rest

end

section Numbers

variable {P Q : ν → Prop}

mutual

theorem AllNumbers.imp (h : ∀ x, P x → Q x) : ∀ {j : Json ν}, j.AllNumbers P → j.AllNumbers Q
  | .number x, hj => h x hj
  | .array _, hj => AllNumbersOfItems.imp h hj
  | .object _, hj => AllNumbersOfEntries.imp h hj
  | .null, _ | .bool _, _ | .int _, _ | .text _, _ => trivial

theorem AllNumbersOfItems.imp (h : ∀ x, P x → Q x) :
    ∀ {items : List (Json ν)}, AllNumbersOfItems P items → AllNumbersOfItems Q items
  | [], _ => trivial
  | _ :: _, hs => ⟨AllNumbers.imp h hs.1, AllNumbersOfItems.imp h hs.2⟩

theorem AllNumbersOfEntries.imp (h : ∀ x, P x → Q x) : ∀ {entries : List (String × Json ν)},
    AllNumbersOfEntries P entries → AllNumbersOfEntries Q entries
  | [], _ => trivial
  | (_, _) :: _, hs => ⟨AllNumbers.imp h hs.1, AllNumbersOfEntries.imp h hs.2⟩

end

end Numbers

/-- The text of a number is read as it stands, up to where it ends. -/
def ReadsBack (number : ν → List Char) (x : ν) : Prop :=
  ∀ rest, Stops isNumberChar rest →
    readNumber? (number x ++ rest) = some (.number (String.ofList (number x)), rest)

section Values

variable {cs rest : List Char} {j : Json String} {items : List (Json String)}
  {entry : String × Json String} {entries : List (String × Json String)} {fuel : Nat}

theorem head_of_readNumber? (h : readNumber? cs = some (j, rest)) :
    ∃ c tail, cs = c :: tail ∧ (isDigit c = true ∨ c = '-') := by
  unfold readNumber? at h
  cases cs with
  | nil => simp [isNumber, isWhole] at h
  | cons c tail =>
    refine ⟨c, tail, rfl, ?_⟩
    by_contra hc
    rw [not_or] at hc
    have hd : isDigit c = false := by simpa using hc.1
    have hn : isNumber ((c :: tail).takeWhile isNumberChar) = false := by
      cases hc' : isNumberChar c with
      | true =>
        rw [List.takeWhile_cons_of_pos hc']
        simp [isNumber, hc.2, hd, isWhole]
      | false =>
        rw [List.takeWhile_cons_of_neg (by simp [hc'])]
        decide
    simp [hn] at h

theorem skipSpace_cons {c : Char} (h : isSpace c = false) : skipSpace (c :: rest) = c :: rest := by
  simp [skipSpace, h]

/-- What starts a value: no blank and no closing bracket. -/
def Starts (cs : List Char) : Prop :=
  ∃ c tail, cs = c :: tail ∧ isSpace c = false ∧ c ≠ ']' ∧ c ≠ '\x7d'

theorem starts_of_readNumber? (h : readNumber? cs = some (j, rest)) : Starts cs := by
  obtain ⟨c, tail, rfl, hc⟩ := head_of_readNumber? h
  refine ⟨c, tail, rfl, ?_, ?_, ?_⟩
  · simp only [isSpace, Bool.or_eq_false_iff, decide_eq_false_iff_not]
    refine ⟨⟨⟨?_, ?_⟩, ?_⟩, ?_⟩ <;> (rintro rfl; revert hc; decide)
  · rintro rfl
    revert hc
    decide
  · rintro rfl
    revert hc
    decide

theorem readValue_number (h : readNumber? cs = some (j, rest)) :
    readValue (fuel + 1) cs = some (j, rest) := by
  obtain ⟨c, tail, rfl, hc⟩ := head_of_readNumber? h
  obtain ⟨d, tail', heq, hs, -, -⟩ := starts_of_readNumber? h
  obtain ⟨rfl, rfl⟩ := List.cons.inj heq
  rw [readValue, skipSpace_cons hs]
  -- No word and no bracket starts as a number does.
  split
  case h_7 => exact h
  all_goals
    next heq =>
      obtain ⟨rfl, -⟩ := List.cons.inj heq
      exact absurd hc (by decide)

theorem readValue_array (hs : Starts cs) (hj : readValue fuel cs = some (j, rest))
    {last : List Char} (hi : readItems fuel rest = some (items, last)) :
    readValue (fuel + 1) ('[' :: cs) = some (.array (j :: items), last) := by
  obtain ⟨c, tail, rfl, hc, hb, -⟩ := hs
  rw [readValue, skipSpace_cons (by decide)]
  simp only [skipSpace_cons hc]
  split
  · next heq => exact absurd (List.cons.inj heq).1 hb
  · simp [hj, hi]

theorem readItems_cons (hj : readValue fuel cs = some (j, rest)) {last : List Char}
    (hi : readItems fuel rest = some (items, last)) :
    readItems (fuel + 1) (',' :: cs) = some (j :: items, last) := by
  rw [readItems, skipSpace_cons (by decide)]
  simp [hj, hi]

theorem readEntry_cons (key : String) (hj : readValue fuel cs = some (j, rest)) :
    readEntry (fuel + 1) (writeText key ++ ':' :: cs) = some ((key, j), rest) := by
  have ht : writeText key ++ ':' :: cs =
      '"' :: (key.toList.flatMap escapeChar ++ '"' :: ':' :: cs) := by
    simp [writeText]
  rw [ht, readEntry, skipSpace_cons (by decide)]
  simp [readString?_escaped, skipSpace_cons (show isSpace ':' = false by decide), hj]

theorem readValue_object (key : String)
    (hj : readEntry fuel (writeText key ++ cs) = some (entry, rest))
    {last : List Char} (hi : readEntries fuel rest = some (entries, last)) :
    readValue (fuel + 1) ('\x7b' :: (writeText key ++ cs)) =
      some (.object (entry :: entries), last) := by
  have ht : writeText key ++ cs = '"' :: (key.toList.flatMap escapeChar ++ '"' :: cs) := by
    simp [writeText]
  rw [readValue, skipSpace_cons (by decide)]
  rw [ht] at hj ⊢
  simp [skipSpace_cons (show isSpace '"' = false by decide), hj, hi]

theorem readEntries_cons (hj : readEntry fuel cs = some (entry, rest)) {last : List Char}
    (hi : readEntries fuel rest = some (entries, last)) :
    readEntries (fuel + 1) (',' :: cs) = some (entry :: entries, last) := by
  rw [readEntries, skipSpace_cons (by decide)]
  simp [hj, hi]

end Values

theorem stops_writeItems (items : List (Json ν)) (rest : List Char) :
    Stops isNumberChar (writeItems number items ++ rest) := by
  cases items <;> exact stops_cons (by decide)

theorem stops_writeEntries (entries : List (String × Json ν)) (rest : List Char) :
    Stops isNumberChar (writeEntries number entries ++ rest) := by
  cases entries <;> exact stops_cons (by decide)

theorem starts_write {j : Json ν} (h : j.AllNumbers (ReadsBack number)) (rest : List Char)
    (hr : Stops isNumberChar rest) : Starts (write number j ++ rest) := by
  cases j with
  | int n => exact starts_of_readNumber? (readNumber?_integerDigits n hr)
  | number x => exact starts_of_readNumber? (h rest hr)
  | bool b => cases b <;> exact ⟨_, _, rfl, by decide⟩
  | array items => cases items <;> exact ⟨_, _, rfl, by decide⟩
  | object entries => cases entries <;> exact ⟨_, _, rfl, by decide⟩
  | null => exact ⟨_, _, rfl, by decide⟩
  | text s => exact ⟨_, _, rfl, by decide⟩

theorem length_write_pos {j : Json ν} (h : j.AllNumbers (ReadsBack number)) :
    0 < (write number j).length := by
  obtain ⟨c, tail, hc, -⟩ := starts_write h [] (by simp [Stops])
  rw [List.append_nil] at hc
  simp [hc]

mutual

/-- A tree is read back, and nothing of what follows it; the fuel may be the length of its text. -/
theorem readValue_write : ∀ (j : Json ν), j.AllNumbers (ReadsBack number) →
    ∀ (rest : List Char) (fuel : Nat), Stops isNumberChar rest → (write number j).length ≤ fuel →
      readValue fuel (write number j ++ rest) =
        some (j.mapNumber fun x => String.ofList (number x), rest)
  | j, h, _, 0, _, hf => absurd (length_write_pos h) (by omega)
  | .null, _, rest, fuel + 1, _, _ => by
    simp [write, readValue, skipSpace, isSpace, mapNumber]
  | .bool true, _, rest, fuel + 1, _, _ => by
    simp [write, readValue, skipSpace, isSpace, mapNumber]
  | .bool false, _, rest, fuel + 1, _, _ => by
    simp [write, readValue, skipSpace, isSpace, mapNumber]
  | .int n, _, rest, fuel + 1, hr, _ => readValue_number (readNumber?_integerDigits n hr)
  | .number x, h, rest, fuel + 1, hr, _ => readValue_number (h rest hr)
  | .text s, _, rest, fuel + 1, _, _ => by
    simp [write, writeText, readValue, skipSpace, isSpace, readString?_escaped, mapNumber]
  | .array [], _, rest, fuel + 1, _, _ => by
    simp [write, readValue, skipSpace, isSpace, mapNumber, mapItems]
  | .array (j :: items), h, rest, fuel + 1, _, hf => by
    simp only [write, List.length_cons, List.length_append] at hf
    have hs : Stops isNumberChar (writeItems number items ++ rest) := stops_writeItems items rest
    have hj := readValue_write j h.1 _ fuel hs (by omega)
    have hi := readItems_write items h.2 rest fuel (by omega)
    simpa [write, mapNumber, mapItems] using readValue_array (starts_write h.1 _ hs) hj hi
  | .object [], _, rest, fuel + 1, _, _ => by
    simp [write, readValue, skipSpace, isSpace, mapNumber, mapEntries]
  | .object ((key, j) :: entries), h, rest, 1, _, hf => by
    simp [write, writeText] at hf
  | .object ((key, j) :: entries), h, rest, fuel + 2, _, hf => by
    simp only [write, List.length_cons, List.length_append] at hf
    have hs : Stops isNumberChar (writeEntries number entries ++ rest) :=
      stops_writeEntries entries rest
    have hj := readValue_write j h.1 _ fuel hs (by omega)
    have hi := readEntries_write entries h.2 rest (fuel + 1) (by omega)
    simpa [write, mapNumber, mapEntries] using readValue_object key (readEntry_cons key hj) hi

theorem readItems_write : ∀ (items : List (Json ν)), AllNumbersOfItems (ReadsBack number) items →
    ∀ (rest : List Char) (fuel : Nat), (writeItems number items).length ≤ fuel →
      readItems fuel (writeItems number items ++ rest) =
        some (mapItems (fun x => String.ofList (number x)) items, rest)
  | [], _, _, 0, hf | _ :: _, _, _, 0, hf => by simp [writeItems] at hf
  | [], _, rest, fuel + 1, _ => by
    simp [writeItems, readItems, skipSpace, isSpace, mapItems]
  | j :: items, h, rest, fuel + 1, hf => by
    simp only [writeItems, List.length_cons, List.length_append] at hf
    have hs : Stops isNumberChar (writeItems number items ++ rest) := stops_writeItems items rest
    have hj := readValue_write j h.1 _ fuel hs (by omega)
    have hi := readItems_write items h.2 rest fuel (by omega)
    simpa [writeItems, mapItems] using readItems_cons hj hi

theorem readEntries_write : ∀ (entries : List (String × Json ν)),
    AllNumbersOfEntries (ReadsBack number) entries →
    ∀ (rest : List Char) (fuel : Nat), (writeEntries number entries).length ≤ fuel →
      readEntries fuel (writeEntries number entries ++ rest) =
        some (mapEntries (fun x => String.ofList (number x)) entries, rest)
  | [], _, _, 0, hf | _ :: _, _, _, 0, hf => by simp [writeEntries] at hf
  | [], _, rest, fuel + 1, _ => by
    simp [writeEntries, readEntries, skipSpace, isSpace, mapEntries]
  | (key, j) :: entries, h, rest, 1, hf => by
    simp [writeEntries, writeText] at hf
  | (key, j) :: entries, h, rest, fuel + 2, hf => by
    simp only [writeEntries, List.length_cons, List.length_append] at hf
    have hs : Stops isNumberChar (writeEntries number entries ++ rest) :=
      stops_writeEntries entries rest
    have hj := readValue_write j h.1 _ fuel hs (by omega)
    have hi := readEntries_write entries h.2 rest (fuel + 1) (by omega)
    simpa [writeEntries, mapEntries] using readEntries_cons (readEntry_cons key hj) hi

end

/-- The text of a tree holds this tree. -/
theorem parse?_render {number : ν → String} {j : Json ν}
    (h : j.AllNumbers (ReadsBack fun x => (number x).toList)) :
    parse? (j.render number) = some (j.mapNumber number) := by
  have hr := readValue_write j h [] (2 * (write (fun x => (number x).toList) j).length + 2)
    (by simp [Stops]) (by omega)
  simp only [List.append_nil, String.ofList_toList] at hr
  simp [parse?, render, hr, skipSpace]

end CredentialWrite.Json
