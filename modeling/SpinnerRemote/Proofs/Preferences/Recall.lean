import SpinnerRemote.Preferences.Store
import SpinnerRemote.Proofs.Binary.Rounds

/-!
What is read back from preferences after they were set. A key gives the number it was set to, or one
equal to it that it had already; every other key gives what it gave before.

Floats pass through double precision without loss. As equal numbers may differ in the sign of a zero, a
float is read back equal by value.
-/
namespace SpinnerRemote
namespace Json.Members

theorem get?_insert_self (members : Members) (key : String) (value : Value) :
    (insert key value members).get? key = some value := by
  induction members with
  | nil => simp [insert, get?]
  | cons member rest ih =>
    obtain ⟨other, old⟩ := member
    unfold insert
    split
    · simp [get?]
    · rename_i apart
      split
      · simp [get?]
      · have apart : (key == other) = false := by simpa using apart
        simp only [get?, List.lookup_cons, apart] at ih ⊢
        exact ih

theorem get?_insert_of_ne (members : Members) {key key' : String} (apart : key' ≠ key) (value : Value) :
    (insert key value members).get? key' = members.get? key' := by
  have differ : (key' == key) = false := by simpa using apart
  induction members with
  | nil => simp [insert, get?, apart]
  | cons member rest ih =>
    obtain ⟨other, old⟩ := member
    unfold insert
    split
    · rename_i same
      subst same
      simp [get?, List.lookup_cons, differ]
    · split
      · simp [get?, List.lookup_cons, differ]
      · simp only [get?, List.lookup_cons] at ih ⊢
        rw [ih]

end Json.Members

namespace Preferences

/-- A key that was set has the number, or one it had already and that counts as the same. -/
theorem number?_set_self (preferences : Preferences) (key : String) (number : Json.Number) :
    ∃ held, (preferences.set key number).number? key = some held ∧
      (held = number ∨ held.sameAs number = true) := by
  unfold set
  split
  · rename_i holds
    unfold Preferences.holds at holds
    split at holds
    · exact ⟨_, ‹_›, .inr holds⟩
    · cases holds
  · refine ⟨number, ?_, .inl rfl⟩
    simp [number?, Json.Members.get?_insert_self]

theorem number?_set_of_ne (preferences : Preferences) {key key' : String} (apart : key' ≠ key)
    (number : Json.Number) : (preferences.set key number).number? key' = preferences.number? key' := by
  unfold set
  split
  · rfl
  · simp [number?, Json.Members.get?_insert_of_ne _ apart]

theorem getInt?_setInt (preferences : Preferences) (key : String) {value : Int}
    (least : -(Json.NumberText.signedLimit : Int) ≤ value) (most : value < Json.NumberText.signedLimit) :
    (preferences.setInt key value).getInt? key = some value := by
  have kept : (preferences.setInt key value).number? key = some (.int value) := by
    obtain ⟨held, found, rfl | same⟩ := preferences.number?_set_self key (intNumber value)
    · exact found
    · cases held with
      | int old =>
        have same : old = value := by simpa [Json.Number.sameAs, intNumber] using same
        rw [← same] at found ⊢
        exact found
      | single old => simp [Json.Number.sameAs, intNumber] at same
      | double old => simp [Json.Number.sameAs, intNumber] at same
  unfold getInt?
  rw [kept]
  exact if_pos ⟨least, most⟩

theorem getInt?_setFloat_of_ne (preferences : Preferences) {key key' : String} (apart : key' ≠ key)
    (value : Single) : (preferences.setFloat key value).getInt? key' = preferences.getInt? key' := by
  unfold setFloat
  split
  · simp only [getInt?, number?_set_of_ne _ apart]
  · rfl

theorem getFloat?_setFloat (preferences : Preferences) (key : String) {value : Single}
    (finite : value.isFinite = true) :
    ∃ read, (preferences.setFloat key value).getFloat? key = some read ∧ read.isFinite = true ∧
      read.value = value.value := by
  obtain ⟨widened, exact⟩ := Binary.convert_double finite
  have kept : floatNumber? value = some (.double (value.convert .double)) := if_pos finite
  have same : ∃ held : Double, (preferences.setFloat key value).number? key = some (.double held) ∧
      held.isFinite = true ∧ held.value = value.value := by
    unfold setFloat
    rw [kept]
    obtain ⟨held, found, rfl | same⟩ := preferences.number?_set_self key (.double (value.convert .double))
    · exact ⟨_, found, widened, exact⟩
    · cases held with
      | int old => simp [Json.Number.sameAs] at same
      | single old => simp [Json.Number.sameAs] at same
      | double old =>
        obtain ⟨finite', same⟩ := Binary.value_of_numEq same widened
        exact ⟨old, found, finite', same.trans exact⟩
  obtain ⟨held, found, finite', same⟩ := same
  unfold getFloat?
  rw [found]
  exact ⟨_, rfl, Binary.convert_single_of_value finite finite' same⟩

end Preferences
end SpinnerRemote
