import CredentialWrite.Proofs.Json.Octets
import CredentialWrite.Proofs.Payload.FloatFree
import CredentialWrite.Proofs.Payload.Selected
import CredentialWrite.Proofs.Session.Snapshots

/-!
# Bodies and dumps

The body of a prepared request is its payload, written character by character; the dump of a request
as text is written octet by octet. They are the same text, unless the value holds a float, for which
the two may have different digits, or an iterator, whose items go to the one that is written first.
-/

namespace CredentialWrite

namespace Store

variable {s : Store} {r : Ref} {q : StoredRequest} {listed : Address} {j : WireJson}

/-- The text that is dumped for a request is the body of its payload. -/
theorem dumpTextOf?_eq_body (hr : s.cellOf? r = some (.request q listed))
    (free : (s.view q.value).holdsFloatOrIterator = false)
    (hj : (s.readRequest q).payload = .ok j) :
    s.dumpTextOf? .dropAbsent .everything r = some (.ok (PreparedRequest.bodyOf j), s) := by
  obtain ⟨a, rfl, -⟩ := exists_of_cellOf? hr
  have read := Value.holdsFloatOrIterator_readOnce [] [] free
  have takes := Value.takes_eq_nil .dropAbsent nestingLimit read
  have floatFree := WriteRequest.isFloatFree_payload read hj
  obtain ⟨entries, he, hj⟩ := exists_of_bind_eq_ok hj
  cases hj
  have text : (Json.object entries).renderOctets (·.toText .compact) =
      PreparedRequest.bodyOf (.object entries) := by
    rw [Json.renderOctets_eq_render, PreparedRequest.bodyOf]
    exact floatFree.render_eq _ _
  have kept : (Value.request a (s.readRequest q)).selectedTakes .dropAbsent .everything = [] :=
    takes
  simp only [dumpTextOf?, readRecord_of_request hr, Value.dumpText?, Value.wireEntriesOf?, he, kept,
    Option.map_some, Except.map, text, take_nil]

end Store

namespace Session

open Store

variable {σ : Session} {http r m : Ref} {q : StoredRequest} {listed : Address}

/-- Where neither a float nor an iterator stands in the value of a request, the text that is dumped
for it is the body of what is prepared for it: at that moment, and whenever the value looks as it
does then. -/
theorem text_of_request_is_its_body (hr : σ.store.cellOf? r = some (.request q listed))
    (free : (σ.store.view q.value).holdsFloatOrIterator = false)
    (built : (σ.perform (.buildWrite http r)).1 = .ok m) :
    ∃ p : PreparedRequest,
      (σ.perform (.buildWrite http r)).2.store.cellOf? m = some (.preparedRequest p) ∧
      ∀ s : Store, s.cellOf? r = some (.request q listed) →
        s.view q.value = σ.store.view q.value →
          s.dumpTextOf? .dropAbsent .everything r = some (.ok p.body, s) := by
  obtain ⟨j, client, p, t, hp, -, hc, rfl, ht⟩ := buildWrite_eq_ok hr built
  refine ⟨p, ?_, fun s hs same => ?_⟩
  · rw [perform, ht]
    exact cell?_alloc_self t _
  · rw [body_of_ofPayload hc]
    refine dumpTextOf?_eq_body hs (same ▸ free) ?_
    have alike := payloadOf_eq_of_view same
    rw [hp] at alike
    exact alike

open RequestBuilder in
/-- A request for a mapping of which two keys become the same text. Some characters of its texts
are escaped by a letter, some by their number, and some are longer than an octet. -/
def mixedRequest : StoredRequest := ⟨.any, true, true, ⟨1, plainName⟩, .json, .address 3, [], true⟩

open RequestBuilder in
def mixedStore : Store :=
  ⟨#[.httpClient (.new ⟨"http".toList, [], "h".toList, none, "/".toList, none, none⟩ none []),
    .name plainName, .sequence .list [.scalar (.int (-7)), .none, .text "\x1f/\\"],
    .mapping false [(.text "é\"\n", .address 2), (.scalar (.int 1), .scalar (.bool true)),
      (.text "1", .scalar (.octets [0xE2, 0x82, 0xAC]))],
    .sequence .tuple [], .request mixedRequest 4]⟩

def mixedSession : Session := { initial with store := mixedStore }

theorem text_of_mixed_request_is_its_body :
    mixedStore.cellOf? (.address 5) = some (.request mixedRequest 4) ∧
      (mixedStore.view mixedRequest.value).holdsFloatOrIterator = false ∧
      (mixedSession.perform (.buildWrite (.address 0) (.address 5))).1 = .ok (.address 6) ∧
      ∃ p : PreparedRequest,
        (mixedSession.perform (.buildWrite (.address 0) (.address 5))).2.store.cellOf?
          (.address 6) = some (.preparedRequest p) ∧
        mixedStore.dumpTextOf? .dropAbsent .everything (.address 5) =
          some (.ok p.body, mixedStore) := by
  have found : mixedStore.cellOf? (.address 5) = some (.request mixedRequest 4) := rfl
  have free : (mixedStore.view mixedRequest.value).holdsFloatOrIterator = false := rfl
  have built : (mixedSession.perform (.buildWrite (.address 0) (.address 5))).1 =
      .ok (.address 6) := rfl
  obtain ⟨p, prepared, text⟩ := text_of_request_is_its_body (σ := mixedSession) found free built
  exact ⟨found, free, built, p, prepared, text mixedStore found rfl⟩

end Session

end CredentialWrite
