import CredentialWrite.Proofs.Text.Integer
import CredentialWrite.Proofs.Url.Escaping
import CredentialWrite.Proofs.Url.HostNames

/-!
# Authorities that are read again

The host of a URL is an address of the sixth version, which has colons and stands in brackets, or
it is made of characters that may stand in a host, of which none ends it. So the authority of a URL
is cut where it was put together, and its host is read as it was or in lower case.
-/

namespace CredentialWrite.Url

open Text

variable {c : Char} {cs host : List Char} {u : Url}

theorem isAscii_of_hostSafe (h : hostSafe c = true) : Label.isAscii c = true := by
  have mark {ds : List Char} (hd : ds.all Label.isAscii = true) (hc : c ∈ ds) : c.toNat < 0x80 :=
    of_decide_eq_true (List.all_eq_true.mp hd c hc)
  apply decide_eq_true
  simp only [hostSafe, isUnreserved, isLetter, isDigit, Bool.or_eq_true, Bool.and_eq_true,
    decide_eq_true_eq, List.contains_iff_mem] at h
  rcases h with (((⟨-, hd⟩ | ⟨-, hd⟩) | ⟨-, hd⟩) | listed) | listed
  · exact Nat.lt_of_le_of_lt hd (by decide)
  · exact Nat.lt_of_le_of_lt hd (by decide)
  · exact Nat.lt_of_le_of_lt hd (by decide)
  · exact mark (by decide) listed
  · exact mark (by decide) listed

theorem hostSafe_toLower (h : hostSafe c = true) : hostSafe c.toLower = true :=
  of_ascii (P := fun c => hostSafe c = true → hostSafe c.toLower = true) (by decide +kernel)
    (of_decide_eq_true (isAscii_of_hostSafe h)) h

theorem hostSafe_of_isDigit (h : isDigit c = true) : hostSafe c = true := by
  simp [hostSafe, isUnreserved, h]

theorem AllHostSafe.not_mem (h : AllHostSafe cs) (hc : hostSafe c = false) : c ∉ cs := by
  intro mem
  rw [h c mem] at hc
  cases hc

/-- An address of the sixth version has colons. -/
theorem colon_mem_of_isIPv6 (h : isIPv6 cs = true) : ':' ∈ cs := by
  by_contra none
  have address : ':' ∉ (cut '%' cs).1 := by
    intro hc
    apply none
    unfold cut at hc
    split at hc
    · exact hc
    · exact List.takeWhile_subset _ hc
  simp [isIPv6, split_of_not_mem address] at h

theorem allHostSafe_of_looksDotted (h : looksDotted cs = true) : AllHostSafe cs := by
  simp only [looksDotted, Bool.and_eq_true, List.all_eq_true] at h
  intro c hc
  obtain dot | ⟨part, hp, hc⟩ : c = '.' ∨ _ := mem_of_mem_split hc
  · rw [dot]
    decide
  · exact hostSafe_of_isDigit ((h.2 part hp).2 c hc)

structure IsHost (host : List Char) : Prop where
  noUser : '@' ∉ host
  kind : isIPv6 host = true ∨ AllHostSafe host

theorem AllHostSafe.isHost (h : AllHostSafe host) : IsHost host :=
  ⟨h.not_mem (by decide), .inr h⟩

theorem isHost_of_readHost (hc : '@' ∉ cs) (h : readHost cs = .ok host) : IsHost host := by
  unfold readHost at h
  split at h
  · next dotted =>
    split at h
    · obtain rfl := Except.ok.inj h
      exact (allHostSafe_of_looksDotted dotted).isHost
    · cases h
  · split at h
    · dsimp only at h
      split at h
      · next wide =>
        obtain rfl := Except.ok.inj h
        exact ⟨fun mem => hc (List.mem_of_mem_drop (List.dropLast_subset _ mem)), .inl wide⟩
      · cases h
    · split at h
      · obtain rfl := Except.ok.inj h
        have safe : AllHostSafe (escape hostSafe (cs.map Char.toLower)) := by
          intro d hd
          have known := mem_escape (by decide) hd
          simp only [hostSafe, Bool.or_eq_true] at known ⊢
          exact known.elim id .inl
        exact safe.isHost
      · exact (HostName.allHostSafe_toAscii (of_mapError_eq_ok h)).isHost

def shownHost (host : List Char) : List Char :=
  if host.contains ':' then '[' :: host ++ [']'] else host

/-- A host that is read again is as it was or in lower case. -/
theorem readHost_shownHost (hh : IsHost host) (h : readHost (shownHost host) = .ok cs) :
    cs = host ∨ cs = host.map Char.toLower := by
  by_cases colon : ':' ∈ host
  · have wide : isIPv6 host = true :=
      hh.kind.resolve_right fun safe => safe.not_mem (by decide) colon
    have shown : shownHost host = '[' :: host ++ [']'] :=
      if_pos (List.contains_iff_mem.mpr colon)
    have notDotted : looksDotted ('[' :: host ++ [']']) = false := by
      by_contra dotted
      have safe := allHostSafe_of_looksDotted (Bool.of_not_eq_false dotted)
      exact safe.not_mem (c := '[') (by decide) List.mem_cons_self
    have bracketed : isBracketed ('[' :: host ++ [']']) = true := by
      simp [isBracketed, List.getLast?_cons]
    left
    rw [shown, readHost, notDotted, bracketed] at h
    simpa [wide] using h.symm
  · have safe : AllHostSafe host := hh.kind.resolve_left fun wide => colon (colon_mem_of_isIPv6 wide)
    have shown : shownHost host = host := if_neg fun hc => colon (List.contains_iff_mem.mp hc)
    have open' : isBracketed host = false := by
      by_contra bracketed
      simp only [isBracketed, Bool.not_eq_false, Bool.and_eq_true, decide_eq_true_eq] at bracketed
      exact safe.not_mem (c := '[') (by decide) (List.mem_of_mem_head? bracketed.1.1)
    have ascii : host.all Label.isAscii = true :=
      List.all_eq_true.mpr fun c hc => isAscii_of_hostSafe (safe c hc)
    have lower : escape hostSafe (host.map Char.toLower) = host.map Char.toLower := by
      refine escape_eq_self fun d hd => ?_
      obtain ⟨c, hc, rfl⟩ := List.mem_map.mp hd
      rw [hostSafe_toLower (safe c hc), Bool.true_or]
    rw [shown, readHost, open', ascii, lower] at h
    split at h
    · split at h
      · exact .inl (Except.ok.inj h).symm
      · cases h
    · exact .inr (Except.ok.inj h).symm

def shownPort (port : Option Int) : List Char :=
  match port with
  | some port => ':' :: integerDigits port
  | none => []

theorem netloc_eq (u : Url) : u.netloc = shownHost u.host ++ shownPort u.port := rfl

theorem not_mem_shownPort (hd : isDigit c = false) (hm : c ≠ '-') (hc : c ≠ ':')
    (port : Option Int) : c ∉ shownPort port := by
  intro mem
  cases port with
  | none => cases mem
  | some n =>
    rcases List.mem_cons.mp mem with h | h
    · exact hc h
    · rcases isDigit_or_eq_of_mem_integerDigits h with h | h
      · exact absurd (hd.symm.trans h) (by decide)
      · exact hm h

theorem not_mem_netloc (h : IsHost u.host) : '@' ∉ u.netloc := by
  rw [netloc_eq, List.mem_append, not_or]
  refine ⟨?_, not_mem_shownPort (by decide) (by decide) (by decide) u.port⟩
  unfold shownHost
  split
  · simpa using h.noUser
  · exact h.noUser

theorem cutUser_of_not_mem (h : '@' ∉ cs) : cutUser cs = ([], cs) := by
  have nothing : cs.reverse.dropWhile (· != '@') = [] :=
    List.dropWhile_eq_nil_iff.mpr fun c hc =>
      bne_iff_ne.mpr fun same => h (same ▸ List.mem_reverse.mp hc)
  rw [cutUser, nothing]

/-- What stands behind the last `@`. -/
theorem cutUser_append (user : List Char) (h : '@' ∉ cs) :
    cutUser (user ++ '@' :: cs) = (user, cs) := by
  have other : ∀ c ∈ cs.reverse, (c != '@') = true := fun c hc =>
    bne_iff_ne.mpr fun same => h (same ▸ List.mem_reverse.mp hc)
  have turned : (user ++ '@' :: cs).reverse = cs.reverse ++ '@' :: user.reverse := by simp
  rw [cutUser, turned, List.dropWhile_append_of_pos other, List.takeWhile_append_of_pos other,
    List.dropWhile_cons_of_neg (by simp), List.takeWhile_cons_of_neg (by simp)]
  simp

theorem cutUser_authority (h : IsHost u.host) : cutUser u.authority = (u.user, u.netloc) := by
  unfold authority
  cases hu : u.user with
  | nil => exact cutUser_of_not_mem (not_mem_netloc h)
  | cons c user =>
    rw [List.isEmpty_cons, if_neg Bool.false_ne_true, List.append_assoc]
    exact cutUser_append _ (not_mem_netloc h)

theorem not_mem_cutUser (authority : List Char) : '@' ∉ (cutUser authority).2 := by
  unfold cutUser
  split
  · next nothing =>
    intro mem
    have other := List.dropWhile_eq_nil_iff.mp nothing '@' (List.mem_reverse.mpr mem)
    exact absurd other (by decide)
  · intro mem
    have other := List.mem_takeWhile_imp (List.mem_reverse.mp mem)
    exact absurd other (by decide)

theorem cutHost_brackets (host : List Char) (port : Option Int) :
    cutHost ('[' :: host ++ [']'] ++ shownPort port) =
      ('[' :: host ++ [']'], (shownPort port).drop 1) := by
  have other : ∀ c ∈ (shownPort port).reverse, (c != ']') = true := by
    intro c hc
    apply bne_iff_ne.mpr
    rintro rfl
    exact not_mem_shownPort (by decide) (by decide) (by decide) port (List.mem_reverse.mp hc)
  have turned : ('[' :: host ++ [']'] ++ shownPort port).reverse =
      (shownPort port).reverse ++ ']' :: ('[' :: host).reverse := by simp
  have bracketed : (('[' :: host ++ [']'] ++ shownPort port).reverse.dropWhile
      (· != ']')).reverse = '[' :: host ++ [']'] := by
    rw [turned, List.dropWhile_append_of_pos other, List.dropWhile_cons_of_neg (by simp)]
    simp
  have opens : ('[' :: host ++ [']'] ++ shownPort port).head? = some '[' := rfl
  rw [cutHost, bracketed, List.drop_left, opens]
  cases port <;> rfl

theorem cutHost_open (hc : ':' ∉ host) (hu : '@' ∉ host) (ho : '[' ∉ host) (port : Option Int) :
    cutHost (host ++ shownPort port) = (host, (shownPort port).drop 1) := by
  have inside : ∀ c ∈ host, (c != ':' && c != '@') = true := by
    intro c mem
    rw [Bool.and_eq_true, bne_iff_ne, bne_iff_ne]
    exact ⟨fun same => hc (same ▸ mem), fun same => hu (same ▸ mem)⟩
  have opens : ¬ (host ++ shownPort port).head? = some '[' := by
    intro first
    rcases List.mem_append.mp (List.mem_of_mem_head? first) with mem | mem
    · exact ho mem
    · exact not_mem_shownPort (by decide) (by decide) (by decide) port mem
  rw [cutHost, List.takeWhile_append_of_pos inside, List.dropWhile_append_of_pos inside]
  simp only [opens, decide_false, Bool.false_and]
  cases port <;> simp [shownPort]

/-- The host and the port are found again. -/
theorem cutHost_netloc (h : IsHost u.host) :
    cutHost u.netloc = (shownHost u.host, (shownPort u.port).drop 1) := by
  rw [netloc_eq]
  by_cases colon : ':' ∈ u.host
  · rw [shownHost, if_pos (List.contains_iff_mem.mpr colon)]
    exact cutHost_brackets u.host u.port
  · have safe : AllHostSafe u.host := h.kind.resolve_left fun wide => colon (colon_mem_of_isIPv6 wide)
    rw [shownHost, if_neg fun hc => colon (List.contains_iff_mem.mp hc)]
    exact cutHost_open colon h.noUser (safe.not_mem (by decide)) u.port

theorem cutHost_subset (server : List Char) : (cutHost server).1 ⊆ server := by
  have bracketed : (server.reverse.dropWhile (· != ']')).reverse ⊆ server := fun c hc =>
    List.mem_reverse.mp (List.dropWhile_suffix _ |>.subset (List.mem_reverse.mp hc))
  have first (p : Char → Bool) : server.takeWhile p ⊆ server := List.takeWhile_subset p
  unfold cutHost
  dsimp only
  split <;> split <;> first | exact bracketed | exact first _

end CredentialWrite.Url
