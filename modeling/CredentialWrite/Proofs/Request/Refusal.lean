import CredentialWrite.Proofs.Request.Reading

/-!
# Refused calls

A call that is refused leaves the builder as it was, with all that it holds. A call that takes
permissions is refused exactly when it comes to an argument that is neither a permission nor can be
read, or that yields something else than permissions; the refusal names the class of the first such
object, and what comes after it is not touched.
-/

namespace CredentialWrite.RequestBuilder

theorem perform_permissions (b : RequestBuilder) (s : Store) (rs : List Ref) :
    b.perform s (.permissions rs) = match outcome ((trail s rs).map Prod.snd) with
      | .ok held => ⟨.ok none, b.addPermissions held, (readArguments s rs).2⟩
      | .error e => ⟨.error (.request e), b, (readArguments s rs).2⟩ := by
  rw [← (reads_arguments s rs).outcome, perform]
  rcases readArguments s rs with ⟨e | held, t⟩ <;> rfl

theorem store_perform_permissions (b : RequestBuilder) (s : Store) (rs : List Ref) :
    (b.perform s (.permissions rs)).store = (readArguments s rs).2 := by
  rw [perform_permissions]
  cases outcome ((trail s rs).map Prod.snd) <;> rfl

def readPermission : Permission := ⟨⟨.app, "guid", by decide⟩, [.read], by decide⟩

end CredentialWrite.RequestBuilder
