import SpinnerRemote.Preferences.Place
import SpinnerRemote.Proofs.Preferences.Recall
import SpinnerRemote.Proofs.Splits
import SpinnerRemote.Proofs.Text.Utf8

/-!
What a store keeps at its place, over every order of sets, saves and openings, where any save may fail and
then leaves the place as it was. Questions to a store change nothing and are no part of a run.

`store_loses_nothing` assumes of the reader of objects that it reads those that were to be saved, at least
so far that they answer alike; nothing else changes the place.
-/
namespace SpinnerRemote.Preferences

/-- What is done with a store; a save comes with whether its place can be written. -/
inductive Act where
  | setInt (key : String) (value : Int)
  | setFloat (key : String) (value : Single)
  | flush (writable : Bool)
  | reopen

def Act.key? : Act → Option String
  | .setInt key _ => some key
  | .setFloat key _ => some key
  | _ => none

def after (preferences : Preferences) : Act → Preferences
  | .setInt key value => preferences.setInt key value
  | .setFloat key value => preferences.setFloat key value
  | _ => preferences

def Changes (preferences : Preferences) (act : Act) : Prop :=
  ∃ key, act.key? = some key ∧
    (preferences.after act).members.get? key ≠ preferences.members.get? key

def Alike (preferences other : Preferences) : Prop :=
  ∀ key, preferences.getInt? key = other.getInt? key ∧ preferences.getFloat? key = other.getFloat? key

/-- Preferences are read from their text, or others that answer alike. -/
def ReadsBack (preferences : Preferences) : Prop :=
  ∃ read, ofText? preferences.text = some read ∧ read.Alike preferences

theorem Alike.refl (preferences : Preferences) : preferences.Alike preferences := fun _ => ⟨rfl, rfl⟩

/-- All that the answers of preferences depend on. -/
def numbers (preferences : Preferences) : List (String × Option Json.Number) :=
  preferences.members.map fun (key, value) =>
    (key, match value with | .number number => some number | _ => none)

theorem number?_eq (preferences : Preferences) (key : String) :
    preferences.number? key = (preferences.numbers.lookup key).join := by
  obtain ⟨members⟩ := preferences
  induction members with
  | nil => rfl
  | cons member rest ih =>
    obtain ⟨other, value⟩ := member
    simp only [number?, numbers, Json.Members.get?, List.map_cons, List.lookup_cons] at ih ⊢
    cases key == other with
    | true => cases value <;> rfl
    | false => exact ih

theorem alike_of_numbers {preferences other : Preferences} (same : preferences.numbers = other.numbers) :
    preferences.Alike other := by
  intro key
  simp only [getInt?, getFloat?, number?_eq, same, and_self]

theorem readsBack_of_numbers {preferences : Preferences}
    (same : (ofText? preferences.text).map numbers = some preferences.numbers) : ReadsBack preferences := by
  obtain ⟨read, text, same⟩ := Option.map_eq_some_iff.mp same
  exact ⟨read, text, alike_of_numbers same⟩

/-! One set. -/

theorem sameAs_int (value : Int) : (intNumber value).sameAs (intNumber value) = true := by
  simp [intNumber, Json.Number.sameAs]

theorem sameAs_double {value : Double} (finite : value.isFinite = true) :
    (Json.Number.double value).sameAs (.double value) = true := by
  cases value with
  | finite => simp [Json.Number.sameAs, Binary.numEq, Binary.scaled]
  | _ => cases finite

variable (preferences : Preferences) (key : String)

theorem get?_set_ne_iff {number : Json.Number} (reflexive : number.sameAs number = true) :
    (preferences.set key number).members.get? key ≠ preferences.members.get? key ↔
      preferences.holds key number = false := by
  unfold set
  cases held : preferences.holds key number with
  | true => simp
  | false =>
    simp only [Bool.false_eq_true, if_false, Json.Members.get?_insert_self, iff_true]
    intro same
    simp [holds, number?, ← same, reflexive] at held

@[simp] theorem not_changes_flush (writable : Bool) : ¬Changes preferences (.flush writable) := by
  rintro ⟨key, set, -⟩
  cases set

@[simp] theorem not_changes_reopen : ¬Changes preferences .reopen := by
  rintro ⟨key, set, -⟩
  cases set

theorem changes_setInt_iff (value : Int) : Changes preferences (.setInt key value) ↔
    preferences.holds key (intNumber value) = false := by
  rw [← get?_set_ne_iff preferences key (sameAs_int value)]
  simp [Changes, Act.key?, after, setInt]

theorem changes_setFloat_iff {value : Single} {number : Json.Number}
    (kept : floatNumber? value = some number) :
    Changes preferences (.setFloat key value) ↔ preferences.holds key number = false := by
  have reflexive : number.sameAs number = true := by
    unfold floatNumber? at kept
    split at kept
    next finite =>
      cases kept
      exact sameAs_double (Binary.convert_double finite).1
    next => cases kept
  rw [← get?_set_ne_iff preferences key reflexive]
  simp [Changes, Act.key?, after, setFloat, kept]

theorem not_changes_setFloat {value : Single} (dropped : floatNumber? value = none) :
    ¬Changes preferences (.setFloat key value) := by
  rintro ⟨key', -, differ⟩
  simp [after, setFloat, dropped] at differ

/-! A run of a store. -/

namespace Kept

def flushIf? (kept : Kept) (writable : Bool) : Option Kept :=
  match kept.store.pending? with
  | none => some kept
  | some text => if writable then some ⟨.file text.toUTF8.toList, kept.store.saved⟩ else none

theorem flush?_eq (kept : Kept) : kept.flush? = kept.flushIf? (kept.place ≠ .blocked) := by
  unfold flush? flushIf?
  cases kept.store.pending? with
  | none => rfl
  | some text => cases kept.place <;> rfl

def step (kept : Kept) : Act → Kept
  | .setInt key value => { kept with store := kept.store.setInt key value }
  | .setFloat key value => { kept with store := kept.store.setFloat key value }
  | .flush writable => (kept.flushIf? writable).getD kept
  | .reopen => kept.reopen

def run (kept : Kept) (acts : List Act) : Kept := acts.foldl step kept

/-- A successful save or an opening: the store and its place agree from here on. -/
def Settles (kept : Kept) : Act → Prop
  | .flush writable => (kept.flushIf? writable).isSome
  | .reopen => True
  | _ => False

/-- Some set changed its key's value, and nothing since has settled it. -/
def Unsaved (start : Kept) (acts : List Act) : Prop :=
  ∃ earlier act later, acts = earlier ++ act :: later ∧
    Changes (start.run earlier).store.preferences act ∧
    ∀ middle other rest, later = middle ++ other :: rest →
      ¬(start.run (earlier ++ act :: middle)).Settles other

variable (kept start : Kept) (acts : List Act) (act : Act)

@[simp] theorem run_nil : start.run [] = start := rfl

@[simp] theorem run_snoc : start.run (acts ++ [act]) = (start.run acts).step act :=
  List.foldl_concat ..

theorem run_append (later : List Act) : start.run (acts ++ later) = (start.run acts).run later :=
  List.foldl_append ..

theorem flushIf?_clean {kept : Kept} (clean : kept.store.dirty = false) (writable : Bool) :
    kept.flushIf? writable = some kept := by
  simp [flushIf?, Store.pending?, clean]

theorem flushIf?_dirty {kept : Kept} (dirty : kept.store.dirty = true) (writable : Bool) :
    kept.flushIf? writable = if writable then
      some ⟨.file kept.store.preferences.text.toUTF8.toList, kept.store.saved⟩ else none := by
  simp [flushIf?, Store.pending?, dirty]

theorem reopen_clean : kept.reopen.store.dirty = false := by
  simp only [reopen, ofPlace, Store.openBytes]
  split
  · rfl
  · split <;> rfl

theorem step_dirty : (kept.step act).store.dirty = true ↔
    Changes kept.store.preferences act ∨ kept.store.dirty = true ∧ ¬kept.Settles act := by
  cases act with
  | setInt key value =>
    rw [changes_setInt_iff]
    simp [step, Store.setInt, Store.set, Settles, or_comm]
  | setFloat key value =>
    cases form : floatNumber? value with
    | none =>
      have unchanged := not_changes_setFloat kept.store.preferences key form
      simp [step, Store.setFloat, form, Settles, unchanged]
    | some number =>
      rw [changes_setFloat_iff _ _ form]
      simp [step, Store.setFloat, form, Store.set, Settles, or_comm]
  | flush writable =>
    cases held : kept.store.dirty with
    | false => simp [step, flushIf?_clean held, held]
    | true => cases writable <;> simp [step, Settles, flushIf?_dirty held, held, Store.saved]
  | reopen => simp [step, reopen_clean, Settles]

theorem unsaved_snoc : start.Unsaved (acts ++ [act]) ↔
    Changes (start.run acts).store.preferences act ∨
      start.Unsaved acts ∧ ¬(start.run acts).Settles act := by
  constructor
  · rintro ⟨earlier, change, later, split, changes, unsettled⟩
    rcases split_snoc_iff.mp split with ⟨rfl, rfl, -⟩ | ⟨later, rfl, rfl⟩
    · exact .inl changes
    · refine .inr ⟨⟨earlier, change, later, rfl, changes, ?_⟩, unsettled later act [] rfl⟩
      rintro middle other rest rfl
      exact unsettled middle other (rest ++ [act]) (by simp)
  · rintro (changes | ⟨⟨earlier, change, later, rfl, changes, unsettled⟩, last⟩)
    · exact ⟨acts, act, [], rfl, changes, by simp⟩
    · exact ⟨earlier, change, later ++ [act], by simp, changes, forall_split_snoc unsettled last⟩

theorem run_dirty (clean : start.store.dirty = false) :
    (start.run acts).store.dirty = true ↔ start.Unsaved acts := by
  induction acts using List.reverseRecOn with
  | nil => simp [clean, Unsaved]
  | append_singleton acts act ih => rw [run_snoc, step_dirty, unsaved_snoc, ih]

/-! What the place holds. -/

/-- A store with nothing to save answers as its place does. -/
def Faithful (kept : Kept) : Prop :=
  kept.store.dirty = false → kept.reopen.store.preferences.Alike kept.store.preferences

theorem reopen_faithful : kept.reopen.Faithful := fun _ => .refl _

theorem saved_alike (readable : ReadsBack kept.store.preferences) :
    (reopen ⟨.file kept.store.preferences.text.toUTF8.toList, kept.store.saved⟩).store.preferences.Alike
      kept.store.preferences := by
  obtain ⟨read, text, alike⟩ := readable
  simp only [reopen, ofPlace, Place.bytes?, Store.openBytes, Utf8.decode_toUTF8, text, Option.getD_some]
  exact alike

theorem set_faithful (faithful : kept.Faithful) (key : String) (number : Json.Number) :
    Faithful { kept with store := kept.store.set key number } := by
  intro clean
  obtain ⟨clean, same⟩ : kept.store.dirty = false ∧ kept.store.preferences.holds key number = true := by
    simpa [Store.set] using clean
  have unchanged : kept.store.preferences.set key number = kept.store.preferences := if_pos same
  simp only [Store.set, unchanged]
  exact faithful clean

theorem step_faithful (faithful : kept.Faithful)
    (readable : kept.store.dirty = true → ReadsBack kept.store.preferences) :
    (kept.step act).Faithful := by
  cases act with
  | setInt key value => exact kept.set_faithful faithful key (intNumber value)
  | setFloat key value =>
    simp only [step, Store.setFloat]
    cases floatNumber? value with
    | none => exact faithful
    | some number => exact kept.set_faithful faithful key number
  | flush writable =>
    cases held : kept.store.dirty with
    | false => simpa [step, flushIf?_clean held] using faithful
    | true =>
      cases writable with
      | false => simpa [step, flushIf?_dirty held] using faithful
      | true =>
        simp only [step, flushIf?_dirty held]
        intro _
        exact kept.saved_alike (readable held)
  | reopen => exact kept.reopen_faithful

theorem step_preferences (kept : Kept) {act : Act} (stays : act ≠ .reopen) :
    (kept.step act).store.preferences = kept.store.preferences.after act := by
  cases act with
  | setInt => rfl
  | setFloat key value =>
    simp only [step, after, Store.setFloat, Preferences.setFloat]
    cases floatNumber? value <;> rfl
  | flush writable =>
    cases held : kept.store.dirty with
    | false => simp [step, flushIf?_clean held, after]
    | true => cases writable <;> simp [step, flushIf?_dirty held, after, Store.saved]
  | reopen => exact absurd rfl stays

/-- Between openings a store answers as preferences in memory do. -/
theorem run_preferences (stays : Act.reopen ∉ acts) :
    (start.run acts).store.preferences = acts.foldl after start.store.preferences := by
  induction acts using List.reverseRecOn with
  | nil => rfl
  | append_singleton acts act ih =>
    simp only [List.mem_append, List.mem_singleton, not_or] at stays
    rw [run_snoc, step_preferences _ (Ne.symm stays.2), ih stays.1, List.foldl_concat]

theorem run_faithful (faithful : start.Faithful)
    (readable : ∀ earlier, earlier <+: acts → (start.run earlier).store.dirty = true →
      ReadsBack (start.run earlier).store.preferences) : (start.run acts).Faithful := by
  induction acts using List.reverseRecOn with
  | nil => exact faithful
  | append_singleton acts act ih =>
    rw [run_snoc]
    apply step_faithful
    · exact ih fun earlier before => readable earlier (before.trans (List.prefix_append ..))
    · exact readable acts (List.prefix_append ..)

end Kept

/--
A store that was opened on anything and used in any way; `ReadsBack` holds of what it ever had to save.

With nothing unsaved, opening its place gives a store that answers alike. A save that succeeds, after
however many that failed, leaves at the place what the store holds. There is something to write exactly
while a change is unsaved: then the save fails if the place cannot be written, and otherwise it leaves the
place alone. Until it is opened again, the store holds what preferences in memory would hold.
-/
theorem store_loses_nothing (place : Place) (acts : List Act)
    (readable : ∀ earlier, earlier <+: acts → ((Kept.ofPlace place).run earlier).store.dirty = true →
      ReadsBack ((Kept.ofPlace place).run earlier).store.preferences) :
    let start := Kept.ofPlace place
    let kept := start.run acts
    (¬start.Unsaved acts → kept.reopen.store.preferences.Alike kept.store.preferences) ∧
    (∀ writable next, kept.flushIf? writable = some next →
      next.store.preferences = kept.store.preferences ∧
        next.reopen.store.preferences.Alike kept.store.preferences) ∧
    (start.Unsaved acts → kept.flushIf? false = none ∧
      kept.flushIf? true =
        some ⟨.file kept.store.preferences.text.toUTF8.toList, kept.store.saved⟩) ∧
    (¬start.Unsaved acts → ∀ writable, kept.flushIf? writable = some kept) ∧
    kept.flush? = kept.flushIf? (kept.place ≠ .blocked) ∧
    (∀ opened since, acts = opened ++ since → .reopen ∉ since →
      kept.store.preferences = since.foldl after (start.run opened).store.preferences) := by
  intro start kept
  have dirty : kept.store.dirty = true ↔ start.Unsaved acts :=
    start.run_dirty acts (Kept.reopen_clean ⟨place, {}⟩)
  have clean (settled : ¬start.Unsaved acts) : kept.store.dirty = false :=
    Bool.eq_false_iff.mpr (dirty.not.mpr settled)
  have faithful : kept.Faithful :=
    start.run_faithful acts (Kept.reopen_faithful ⟨place, {}⟩) readable
  refine ⟨?_, ?_, ?_, ?_, kept.flush?_eq, ?_⟩
  · intro settled
    exact faithful (clean settled)
  · intro writable next saved
    cases held : kept.store.dirty with
    | false =>
      rw [Kept.flushIf?_clean held] at saved
      cases saved
      exact ⟨rfl, faithful held⟩
    | true =>
      rw [Kept.flushIf?_dirty held] at saved
      cases writable with
      | false => cases saved
      | true =>
        cases saved
        exact ⟨rfl, kept.saved_alike (readable acts (List.prefix_refl acts) held)⟩
  · intro unsaved
    have held := dirty.mpr unsaved
    exact ⟨Kept.flushIf?_dirty held false, Kept.flushIf?_dirty held true⟩
  · intro settled writable
    exact Kept.flushIf?_clean (clean settled) writable
  · rintro opened since rfl stays
    rw [show kept = (start.run opened).run since from start.run_append opened since]
    exact Kept.run_preferences (start.run opened) since stays

/-! A file that is no text, replaced after a save that failed. -/

def corrupt : Place := .file [0xFF]

def refused : List Act :=
  [.setInt headingKey 7, .flush false, .setFloat radiusKey (Binary.ofInt 12)]

theorem refused_loses_nothing :
    (∀ earlier, earlier <+: refused → ((Kept.ofPlace corrupt).run earlier).store.dirty = true →
      ReadsBack ((Kept.ofPlace corrupt).run earlier).store.preferences) ∧
    ∃ next, ((Kept.ofPlace corrupt).run refused).flushIf? true = some next ∧
      next.reopen.store.preferences.getInt? headingKey = some 7 ∧
      next.reopen.store.preferences.getFloat? radiusKey = some (Binary.ofInt 12) := by
  have readable (earlier) (before : earlier <+: refused)
      (dirty : ((Kept.ofPlace corrupt).run earlier).store.dirty = true) :
      ReadsBack ((Kept.ofPlace corrupt).run earlier).store.preferences := by
    have listed : earlier ∈ refused.inits := (List.mem_inits ..).mpr before
    simp only [refused, List.inits, List.map, List.mem_cons, List.not_mem_nil, or_false] at listed
    rcases listed with rfl | rfl | rfl | rfl
    · cases dirty
    all_goals
      apply readsBack_of_numbers
      decide +kernel
  obtain ⟨-, saved, -⟩ := store_loses_nothing corrupt refused readable
  have dirty : ((Kept.ofPlace corrupt).run refused).store.dirty = true := by decide +kernel
  have next := Kept.flushIf?_dirty dirty true
  have alike := (saved true _ next).2
  refine ⟨readable, _, next, ?_, ?_⟩
  · exact (alike headingKey).1.trans (by decide +kernel)
  · exact (alike radiusKey).2.trans (by decide +kernel)

end SpinnerRemote.Preferences
