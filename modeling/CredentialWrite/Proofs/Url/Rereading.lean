import CredentialWrite.Proofs.Url.Authorities
import CredentialWrite.Proofs.Url.Paths

/-!
# URLs that are read again

A URL with another path is read again from its own parts. Its scheme is in lower case already, and
its host and its port name the same server as before. So all resources below a base are on the
server of the base, each at the path of the base with a slash and the path of the resource behind.
-/

namespace CredentialWrite

open Text

namespace Text

theorem toLower_toLower (c : Char) : c.toLower.toLower = c.toLower := by
  by_cases small : c.toNat < 0x80
  · exact of_ascii (P := fun c => c.toLower.toLower = c.toLower) (by decide +kernel) small
  · have same : c.toLower = c := by
      unfold Char.toLower
      rw [dif_neg]
      rintro ⟨-, high⟩
      exact small (Nat.lt_of_le_of_lt (UInt32.le_iff_toNat_le.mp high) (by decide))
    rw [same, same]

theorem map_toLower_toLower (cs : List Char) :
    (cs.map Char.toLower).map Char.toLower = cs.map Char.toLower := by
  rw [List.map_map]
  exact List.map_congr_left fun c _ => toLower_toLower c

end Text

namespace Url

variable {cs authority scheme path target : List Char}
  {query fragment : Option (List Char)} {u v base : Url}

/-- Where requests go that are sent to a URL: the scheme, the host, whose letters have no case, and
the port, which is the standard one of the scheme where none is told. -/
def server (u : Url) : List Char × List Char × Option Int :=
  (u.scheme, u.host.map Char.toLower, u.port.or (standardPort? u.scheme))

structure IsMade (scheme authority path : List Char) (query : Option (List Char)) (u : Url) :
    Prop where
  scheme_eq : u.scheme = scheme.map Char.toLower
  host_eq : readHost (cutHost (cutUser authority).2).1 = .ok u.host
  port_eq : readPort scheme (cutHost (cutUser authority).2).2 = .ok u.port
  path_eq : scheme ≠ [] → u.path = escape pathSafe (resolveSegments path)
  query_eq : u.query = query.map (escape querySafe)

theorem isMade_of_ofParts (h : ofParts scheme authority path query fragment = .ok u) :
    IsMade scheme authority path query u := by
  rcases hu : cutUser authority with ⟨user, server⟩
  rcases hs : cutHost server with ⟨host, port⟩
  rw [ofParts, hu] at h
  dsimp only at h
  rw [hs] at h
  obtain ⟨readHost, hh, h⟩ := exists_of_bind_eq_ok h
  obtain ⟨readPort, hp, h⟩ := exists_of_bind_eq_ok h
  obtain ⟨-, -, h⟩ := exists_of_bind_eq_ok h
  obtain rfl := Except.ok.inj h
  refine ⟨rfl, by rw [hu, hs]; exact hh, by rw [hu, hs]; exact hp, fun absolute => ?_, rfl⟩
  cases scheme with
  | nil => exact absurd rfl absolute
  | cons c scheme => rfl

structure IsRead (u : Url) : Prop where
  absolute : u.scheme ≠ []
  lower : u.scheme.map Char.toLower = u.scheme
  host : IsHost u.host
  path : IsSettled u.path

theorem IsMade.isRead (h : IsMade scheme authority path query u) (hs : scheme ≠ []) :
    IsRead u where
  absolute := by
    rw [h.scheme_eq]
    exact fun none => hs (List.map_eq_nil_iff.mp none)
  lower := by rw [h.scheme_eq, map_toLower_toLower]
  host := isHost_of_readHost (fun mem => not_mem_cutUser authority (cutHost_subset _ mem)) h.host_eq
  path := h.path_eq hs ▸ isSettled_resolved path

theorem isRead_of_parse (h : parse cs = .ok u) (hs : u.scheme ≠ []) : IsRead u := by
  unfold parse at h
  split at h
  · cases h
  · split at h
    · cases h
    · repeat split at h
      have made := isMade_of_ofParts h
      refine made.isRead fun none => hs ?_
      rw [made.scheme_eq, none, List.map_nil]

/-- The port of a URL that is read again is told no more where it is the standard one. -/
theorem readPort_shownPort {port again : Option Int}
    (h : readPort scheme ((shownPort port).drop 1) = .ok again) :
    again.or (standardPort? scheme) = port.or (standardPort? scheme) := by
  cases port with
  | none =>
    obtain rfl := Except.ok.inj h
    rfl
  | some n =>
    unfold readPort at h
    split at h
    · next nothing => exact absurd (List.isEmpty_iff.mp nothing) integerDigits_ne_nil
    · split at h
      · cases h
      · next m hm =>
        obtain rfl := eq_of_readInteger?_integerDigits hm
        obtain rfl := Except.ok.inj h
        split
        · next standard => rw [standard, Option.none_or, Option.some_or]
        · rfl

theorem server_eq_of_isMade (hu : IsRead u) (h : IsMade u.scheme u.authority path query v) :
    v.server = u.server := by
  have host := h.host_eq
  have port := h.port_eq
  rw [cutUser_authority hu.host, cutHost_netloc hu.host] at host port
  have sameScheme : v.scheme = u.scheme := h.scheme_eq.trans hu.lower
  have sameHost : v.host.map Char.toLower = u.host.map Char.toLower := by
    obtain hv | hv := readHost_shownHost hu.host host
    · rw [hv]
    · rw [hv, map_toLower_toLower]
  simp only [server, sameScheme, sameHost, readPort_shownPort port]

structure IsAt (u : Url) (path : List Char) (v : Url) : Prop where
  isRead : IsRead v
  server : v.server = u.server
  path : v.path = path
  query : v.query = none

theorem isAt_of_withTarget (hu : IsRead u) (hp : IsSettled target)
    (h : u.withTarget target = .ok v) : IsAt u target v := by
  unfold withTarget at h
  rw [cut_of_not_mem hp.not_mem_questionMark] at h
  dsimp only at h
  repeat (split at h; · cases h)
  have made := isMade_of_ofParts h
  refine ⟨made.isRead hu.absolute, server_eq_of_isMade hu made, ?_, made.query_eq⟩
  rw [made.path_eq hu.absolute, hp.resolveSegments, hp.escape]

def slashed (path : List Char) : List Char :=
  if path.getLast? = some '/' then path else path ++ ['/']

theorem exists_slashed_eq (h : IsSettled path) :
    ∃ before, slashed path = before ++ ['/'] ∧ IsSettled before := by
  unfold slashed
  split
  · next ends =>
    obtain ⟨before, rfl⟩ := List.getLast?_eq_some_iff.mp ends
    exact ⟨before, rfl, (isSettled_append_slash.mp h).1⟩
  · exact ⟨path, rfl, h⟩

theorem IsSettled.slashed_append (h : IsSettled path) (ht : IsSettled target) :
    IsSettled (slashed path ++ target) := by
  obtain ⟨before, same, hb⟩ := exists_slashed_eq h
  rw [same, List.append_assoc, List.singleton_append]
  exact isSettled_append_slash.mpr ⟨hb, ht⟩

theorem target_of_isAt (h : IsAt u path v) (hp : path ≠ []) : v.target = path := by
  rw [target, h.query, h.path, List.append_nil, if_neg fun none => hp (List.isEmpty_iff.mp none)]

/-- The target of a base is the path with a slash at its end. -/
theorem target_of_asBase (hu : IsRead u) (hq : u.query = none) (h : u.asBase = .ok base) :
    IsRead base ∧ base.server = u.server ∧ base.target = slashed u.path := by
  unfold asBase at h
  by_cases hp : u.path = []
  · have root : u.target = ['/'] := by rw [target, hp, hq]; rfl
    rw [root, if_pos List.getLast?_singleton] at h
    obtain rfl := Except.ok.inj h
    exact ⟨hu, rfl, by rw [root, hp]; rfl⟩
  · have whole : u.target = u.path := target_of_isAt ⟨hu, rfl, rfl, hq⟩ hp
    rw [whole] at h
    unfold slashed
    split at h
    · next ends =>
      obtain rfl := Except.ok.inj h
      exact ⟨hu, rfl, whole.trans (if_pos ends).symm⟩
    · next ends =>
      have settled : IsSettled (u.path ++ ['/']) := isSettled_append_slash.mpr ⟨hu.path, .nil⟩
      have there := isAt_of_withTarget hu settled h
      rw [if_neg ends]
      exact ⟨there.isRead, there.server, target_of_isAt there (by simp)⟩

/-- A resource below a base is on the server of the base. -/
theorem isAt_of_resource (hu : IsRead u) (hq : u.query = none) (hb : u.asBase = .ok base)
    (hp : IsSettled (path.dropWhile (· = '/'))) (h : base.resource path = .ok v) :
    IsAt u (slashed u.path ++ path.dropWhile (· = '/')) v := by
  obtain ⟨baseRead, sameServer, whole⟩ := target_of_asBase hu hq hb
  rw [resource, whole] at h
  have there := isAt_of_withTarget baseRead (hu.path.slashed_append hp) h
  exact ⟨there.isRead, there.server.trans sameServer, there.path, there.query⟩

end Url

end CredentialWrite
