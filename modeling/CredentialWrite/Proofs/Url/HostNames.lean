import CredentialWrite.Proofs.Outcome
import CredentialWrite.Proofs.Text.Split
import CredentialWrite.Url.Parser

/-!
# Seven-bit host names

The seven-bit form of a host name has nothing but letters in lower case, digits, hyphens and dots,
so all of it may stand in a URL. Labels in seven bits are made of these because they are checked;
in Punycode they are the checked characters of seven bits and digits in base 36.
-/

namespace CredentialWrite

open Text Url

def Url.AllHostSafe (cs : List Char) : Prop := ∀ c ∈ cs, hostSafe c = true

namespace Url.Punycode

variable {bias fuel place n code : Nat} {s : State} {text : List Nat}

theorem hostSafe_digit (h : n < 36) : hostSafe (digit n) = true := by
  have digits : ∀ n < 36, hostSafe (digit n) = true := by decide +kernel
  exact digits n h

theorem threshold_mem (place bias : Nat) : 1 ≤ threshold place bias ∧ threshold place bias ≤ 26 := by
  unfold threshold
  omega

/-- Every digit but the last takes at least one from the number, so the digits end in time. -/
theorem allHostSafe_digits (h : n ≤ fuel) : AllHostSafe (digits bias fuel place n) := by
  induction fuel generalizing place n with
  | zero =>
    obtain rfl := Nat.le_zero.mp h
    exact List.forall_mem_singleton.mpr (hostSafe_digit (by decide))
  | succ fuel ih =>
    obtain ⟨low, high⟩ := threshold_mem place bias
    rw [digits]
    set t := threshold place bias
    split
    · exact List.forall_mem_singleton.mpr (hostSafe_digit (by omega))
    · next hn =>
      have below : (n - t) % (36 - t) < 36 - t := Nat.mod_lt _ (by omega)
      have less : (n - t) / (36 - t) ≤ n - t := Nat.div_le_self _ _
      exact List.forall_mem_cons.mpr ⟨hostSafe_digit (by omega), ih (by omega)⟩

theorem State.allHostSafe_pass (h : AllHostSafe s.text) (n : Nat) :
    AllHostSafe (s.pass code n).text := by
  unfold State.pass
  split
  · exact h
  · split
    · exact List.forall_mem_append.mpr ⟨h, allHostSafe_digits (Nat.le_refl _)⟩
    · exact h

theorem State.allHostSafe_write (h : AllHostSafe s.text) (code : Nat) :
    AllHostSafe (s.write text code).text :=
  List.foldlRecOn (motive := fun s : State => AllHostSafe s.text) text _ h
    fun _ hs n _ => State.allHostSafe_pass hs n

/-- Seven-bit characters stay, and all others are written in digits. -/
theorem allHostSafe_encode (h : ∀ n ∈ text, n < 0x80 → hostSafe (Char.ofNat n) = true) :
    AllHostSafe (encode text) := by
  have plain : AllHostSafe ((text.filter (· < 0x80)).map Char.ofNat) := by
    intro c hc
    obtain ⟨n, hn, rfl⟩ := List.mem_map.mp hc
    obtain ⟨hn, small⟩ := List.mem_filter.mp hn
    exact h n hn (of_decide_eq_true small)
  refine List.forall_mem_append.mpr ⟨List.forall_mem_append.mpr ⟨plain, ?_⟩, ?_⟩
  · split
    · exact List.forall_mem_nil _
    · exact List.forall_mem_singleton.mpr (by decide)
  · exact List.foldlRecOn (motive := fun s : State => AllHostSafe s.text) _ _ (List.forall_mem_nil _)
      fun _ hs n _ => State.allHostSafe_write hs n

end Url.Punycode

namespace Label

variable {label before rest : List Nat} {cs ascii : List Char} {n : Nat}

def isAdmitted (n : Nat) : Bool := isLabelLetter n || n = joiner || n = nonJoiner || isSign n

theorem hostSafe_of_isAdmitted (h : isAdmitted n = true) (small : n < 0x80) :
    hostSafe (Char.ofNat n) = true := by
  have letters : ∀ n < 0x80, isAdmitted n = true → hostSafe (Char.ofNat n) = true := by
    decide +kernel
  exact letters n small h

theorem isAdmitted_of_checkCharacters (h : checkCharacters label before rest = .ok ()) :
    ∀ n ∈ rest, isAdmitted n = true := by
  induction rest generalizing before with
  | nil => exact List.forall_mem_nil _
  | cons n after ih =>
    rw [checkCharacters] at h
    split at h
    · cases h
    · next fine =>
      refine List.forall_mem_cons.mpr ⟨?_, ih h⟩
      revert fine
      unfold isAdmitted
      grind

theorem checkCharacters_of_check (h : check label = .ok ()) :
    checkCharacters label [] label = .ok () := by
  unfold check at h
  obtain ⟨-, h⟩ := of_throw_eq_ok h
  obtain ⟨-, h⟩ := of_throw_eq_ok h
  obtain ⟨-, h⟩ := of_throw_eq_ok h
  obtain ⟨-, h⟩ := of_throw_eq_ok h
  obtain ⟨-, h⟩ := of_throw_eq_ok h
  have last : (checkCharacters label [] label >>= fun _ => checkDirections label) = .ok () :=
    (of_throw_eq_ok h).2
  obtain ⟨_, checked, -⟩ := exists_of_bind_eq_ok last
  exact checked

/-- The seven-bit characters of a label that was checked. -/
theorem hostSafe_of_check (h : check label = .ok ()) :
    ∀ n ∈ label, n < 0x80 → hostSafe (Char.ofNat n) = true := fun n hn =>
  hostSafe_of_isAdmitted (isAdmitted_of_checkCharacters (checkCharacters_of_check h) n hn)

theorem allHostSafe_of_checkAscii (h : checkAscii cs = .ok ()) (ha : cs.all isAscii = true) :
    AllHostSafe cs := by
  unfold checkAscii at h
  split at h
  · next marked =>
    obtain ⟨encoded, rfl⟩ := List.isPrefixOf_iff_prefix.mp marked
    rw [List.drop_left] at h
    obtain ⟨-, h⟩ := of_throw_eq_ok h
    obtain ⟨-, h⟩ := of_throw_eq_ok h
    split at h
    · cases h
    · next decoded _ =>
      obtain ⟨_, checked, h⟩ := exists_of_bind_eq_ok h
      have again : Punycode.encode decoded = encoded := by
        by_contra other
        simp [other, throw, throwThe, MonadExceptOf.throw] at h
      refine List.forall_mem_append.mpr ⟨List.all_eq_true.mp (by decide), ?_⟩
      exact again ▸ Punycode.allHostSafe_encode (hostSafe_of_check checked)
  · intro c hc
    have safe := hostSafe_of_check h c.toNat (List.mem_map_of_mem hc)
      (of_decide_eq_true (List.all_eq_true.mp ha c hc))
    rwa [Char.ofNat_toNat] at safe

theorem allHostSafe_toAscii (h : toAscii cs = .ok ascii) : AllHostSafe ascii := by
  unfold toAscii at h
  split at h
  · next ha =>
    obtain ⟨_, checked, h⟩ := exists_of_bind_eq_ok h
    obtain ⟨made, same, h⟩ := exists_of_bind_eq_ok h
    obtain rfl := Except.ok.inj same
    obtain rfl := Except.ok.inj (of_throw_eq_ok h).2
    exact allHostSafe_of_checkAscii checked ha
  · obtain ⟨_, checked, h⟩ := exists_of_bind_eq_ok h
    obtain ⟨made, same, h⟩ := exists_of_bind_eq_ok h
    obtain rfl := Except.ok.inj same
    obtain rfl := Except.ok.inj (of_throw_eq_ok h).2
    refine List.forall_mem_append.mpr ⟨List.all_eq_true.mp (by decide), ?_⟩
    exact Punycode.allHostSafe_encode (hostSafe_of_check checked)

end Label

namespace HostName

/-- Nothing stands in the seven-bit form of a name that a URL could not hold there. -/
theorem allHostSafe_toAscii {name host : List Char} (h : toAscii name = .ok host) :
    AllHostSafe host := by
  unfold toAscii at h
  obtain ⟨-, h⟩ := of_throw_eq_ok h
  generalize labels (lowerCased name) = found at h
  obtain ⟨parts, isRooted⟩ := found
  obtain ⟨ascii, hm, h⟩ := exists_of_bind_eq_ok h
  obtain rfl := Except.ok.inj (of_throw_eq_ok h).2
  have labels : ∀ label ∈ ascii, AllHostSafe label :=
    forall_of_mapM_eq_ok (fun _ _ => Label.allHostSafe_toAscii) (of_mapError_eq_ok hm)
  have dot : hostSafe '.' = true := by decide
  refine List.forall_mem_append.mpr ⟨fun c hc => ?_, ?_⟩
  · rcases mem_join hc with rfl | ⟨label, hl, hc⟩
    · exact dot
    · exact labels label hl c hc
  · split
    · exact List.forall_mem_singleton.mpr dot
    · exact List.forall_mem_nil _

end HostName

end CredentialWrite
