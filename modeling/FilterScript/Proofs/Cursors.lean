import FilterScript.Proofs.Iteration

/-! # Several cursors on one value

Any number of cursors can be opened on a value, asked for their next items and set back, in any
order. What a cursor answers depends on how often it has been asked since it was opened or set back
for the last time, and on nothing that is done with the others (`Value.cursors_answer`). The
invariant behind this is that every cursor keeps the items of the value, whatever the steps are.
-/

namespace FilterScript

/-- What is done with the cursors on a value: one more is opened, or one of them is asked for its
next item or set back. They are numbered in the order in which they are opened. -/
inductive CursorStep where
  | create
  | next (cursor : Nat)
  | reset (cursor : Nat)
  deriving DecidableEq, Repr

/-- The step opens the cursor of the number after the given steps, or sets it back. -/
def CursorStep.Begins (number : Nat) (earlier : List CursorStep) (step : CursorStep) : Prop :=
  step = .create ∧ number = earlier.count .create ∨
    step = .reset number ∧ number < earlier.count .create

/-- What is answered to the question for the next item: the item with its place and that there was
one, or no item and the index zero and that there was none. -/
structure ItemAnswer where
  item : Option Value
  place : Place
  more : Bool

/-- The answer that gives an item, if there is one to give. -/
def ItemAnswer.ofItem : Option (Value × Place) → ItemAnswer
  | some (item, place) => ⟨some item, place, true⟩
  | none => ⟨none, .index 0, false⟩

/-- A value with the cursors that have been opened on it. -/
structure Browsing where
  value : Value
  cursors : List ItemCursor

namespace Browsing

/-- A value without cursors. -/
def ofValue (value : Value) : Browsing := ⟨value, []⟩

/-- The cursors after a step. No cursor is opened on a value without items, and a step on a cursor
that has not been opened does nothing. -/
def step (browsing : Browsing) : CursorStep → Browsing
  | .create =>
    match ItemCursor.ofValue browsing.value with
    | .ok cursor => { browsing with cursors := browsing.cursors ++ [cursor] }
    | .error _ => browsing
  | .next number =>
    { browsing with cursors := browsing.cursors.modify number fun cursor => cursor.next.2 }
  | .reset number => { browsing with cursors := browsing.cursors.modify number ItemCursor.reset }

/-- The cursors after steps, one after the other. -/
def after (browsing : Browsing) (steps : List CursorStep) : Browsing := steps.foldl step browsing

/-- What the cursor of a number answers when it is asked for its next item. -/
def answer? (browsing : Browsing) (number : Nat) : Option ItemAnswer :=
  browsing.cursors[number]?.map fun cursor => .ofItem cursor.next.1

variable {browsing : Browsing} {items : List (Value × Place)} {number : Nat}

theorem after_cons (browsing : Browsing) (step : CursorStep) (steps : List CursorStep) :
    browsing.after (step :: steps) = (browsing.step step).after steps := rfl

theorem after_append (browsing : Browsing) (steps later : List CursorStep) :
    browsing.after (steps ++ later) = (browsing.after steps).after later :=
  List.foldl_append

/-- No step changes the value. -/
theorem step_value (browsing : Browsing) (step : CursorStep) :
    (browsing.step step).value = browsing.value := by
  cases step with
  | create =>
      unfold Browsing.step
      cases ItemCursor.ofValue browsing.value <;> rfl
  | next number | reset number => rfl

/-- Whatever the cursors do, the value stays the same. -/
theorem after_value (browsing : Browsing) (steps : List CursorStep) :
    (browsing.after steps).value = browsing.value := by
  induction steps generalizing browsing with
  | nil => rfl
  | cons step steps ih => rw [after_cons, ih, step_value]

/-- A step on one cursor, or one that opens a cursor, leaves every other cursor as it is. -/
theorem step_other {step : CursorStep} (notNext : step ≠ .next number)
    (notReset : step ≠ .reset number) (opened : number < browsing.cursors.length) :
    (browsing.step step).cursors[number]? = browsing.cursors[number]? := by
  cases step with
  | create =>
      unfold Browsing.step
      cases ItemCursor.ofValue browsing.value with
      | ok cursor => exact List.getElem?_append_left opened
      | error failure => rfl
  | next other =>
      have apart : other ≠ number := fun same => notNext (congrArg _ same)
      exact List.getElem?_modify_ne _ _ apart
  | reset other =>
      have apart : other ≠ number := fun same => notReset (congrArg _ same)
      exact List.getElem?_modify_ne _ _ apart

/-! ## What all cursors keep -/

/-- The value has the items, and so does every cursor. -/
structure Keeps (browsing : Browsing) (items : List (Value × Place)) : Prop where
  value : browsing.value.items? = some items
  cursors : ∀ cursor ∈ browsing.cursors, cursor.items = items

/-- A property that a change keeps is a property of all elements of the changed list. -/
theorem forall_mem_modify {α : Type} {change : α → α} {holds : α → Prop} {list : List α}
    (kept : ∀ element, holds element → holds (change element))
    (all : ∀ element ∈ list, holds element) (n : Nat) :
    ∀ element ∈ list.modify n change, holds element := by
  intro element member
  obtain ⟨m, found⟩ := List.mem_iff_getElem?.mp member
  rw [List.getElem?_modify] at found
  obtain ⟨old, there, rfl⟩ := Option.map_eq_some_iff.mp found
  have held := all old (List.mem_of_getElem? there)
  split
  · exact kept old held
  · exact held

namespace Keeps

/-- A new cursor stands at the beginning of all items. -/
theorem step_create (keeps : browsing.Keeps items) :
    browsing.step .create = { browsing with cursors := browsing.cursors ++ [⟨items, 0⟩] } := by
  simp only [Browsing.step, ItemCursor.ofValue, keeps.value]

/-- A step leaves every cursor with the items of the value. -/
theorem step (keeps : browsing.Keeps items) (step : CursorStep) :
    (browsing.step step).Keeps items := by
  cases step with
  | create =>
      rw [keeps.step_create]
      refine ⟨keeps.value, fun cursor member => ?_⟩
      rcases List.mem_append.mp member with old | new
      · exact keeps.cursors cursor old
      · obtain rfl := List.mem_singleton.mp new
        rfl
  | next number =>
      refine ⟨keeps.value, forall_mem_modify (fun cursor same => ?_) keeps.cursors number⟩
      rw [← same, cursor.items_next]
  | reset number =>
      have kept : ∀ cursor : ItemCursor, cursor.items = items → cursor.reset.items = items :=
        fun _ same => same
      exact ⟨keeps.value, forall_mem_modify kept keeps.cursors number⟩

/-- Steps leave every cursor with the items of the value. -/
theorem after (keeps : browsing.Keeps items) (steps : List CursorStep) :
    (browsing.after steps).Keeps items := by
  induction steps generalizing browsing with
  | nil => exact keeps
  | cons step steps ih => exact ih (keeps.step step)

/-- A step opens as many cursors as it creates. -/
theorem length_step (keeps : browsing.Keeps items) (step : CursorStep) :
    (browsing.step step).cursors.length = browsing.cursors.length + [step].count .create := by
  cases step with
  | create =>
      rw [keeps.step_create, List.length_append]
      rfl
  | next number | reset number => exact List.length_modify _ _ _

/-- There are as many cursors as have been opened. -/
theorem length_after (keeps : browsing.Keeps items) (steps : List CursorStep) :
    (browsing.after steps).cursors.length = browsing.cursors.length + steps.count .create := by
  induction steps generalizing browsing with
  | nil => rfl
  | cons step steps ih =>
      have parted : step :: steps = [step] ++ steps := rfl
      rw [after_cons, ih (keeps.step step), keeps.length_step, parted, List.count_append,
        Nat.add_assoc]

end Keeps

/-! ## Where a cursor stands -/

/-- The cursor of the number has the items and has given the first of them, as many as it was asked
for or all of them. -/
def Stands (browsing : Browsing) (items : List (Value × Place)) (number asked : Nat) : Prop :=
  browsing.cursors[number]? = some ⟨items, min asked items.length⟩

/-- A cursor that is opened or set back stands before the first item. -/
theorem Keeps.stands_begin (keeps : browsing.Keeps items) {earlier : List CursorStep}
    {step : CursorStep} (opened : browsing.cursors.length = earlier.count .create)
    (begins : step.Begins number earlier) : (browsing.step step).Stands items number 0 := by
  unfold Stands
  rw [Nat.zero_min]
  rcases begins with ⟨rfl, rfl⟩ | ⟨rfl, there⟩
  · rw [keeps.step_create, ← opened]
    exact List.getElem?_concat_length
  · rw [← opened] at there
    have same := keeps.cursors _ (List.getElem_mem there)
    simp only [Browsing.step, List.getElem?_modify_eq, List.getElem?_eq_getElem there]
    exact congrArg some (congrArg (ItemCursor.mk · 0) same)

namespace Stands

variable {asked : Nat}

/-- A cursor answers with the item that it stands at. -/
theorem answer (stands : browsing.Stands items number asked) :
    browsing.answer? number = some (.ofItem items[asked]?) := by
  rw [answer?, stands, Option.map_some, ItemCursor.fst_next]
  rcases Nat.lt_or_ge asked items.length with inside | behind
  · rw [Nat.min_eq_left (Nat.le_of_lt inside)]
  · rw [Nat.min_eq_right behind, List.getElem?_eq_none (Nat.le_refl _),
      List.getElem?_eq_none behind]

/-- A cursor that is asked for its next item stands one item further on, if there is one. -/
theorem next (stands : browsing.Stands items number asked) :
    (browsing.step (.next number)).Stands items number (asked + 1) := by
  unfold Stands Browsing.step
  rw [List.getElem?_modify_eq, stands]
  rcases Nat.lt_or_ge asked items.length with inside | behind
  · have left : (⟨items, asked⟩ : ItemCursor).items[asked]? = some items[asked] :=
      List.getElem?_eq_getElem inside
    rw [Nat.min_eq_left (Nat.le_of_lt inside), Nat.min_eq_left inside]
    exact congrArg (fun asked => some asked.2) (ItemCursor.next_of_some left)
  · have exhausted : (⟨items, items.length⟩ : ItemCursor).items[items.length]? = none :=
      List.getElem?_eq_none (Nat.le_refl _)
    rw [Nat.min_eq_right behind, Nat.min_eq_right (Nat.le_succ_of_le behind)]
    exact congrArg (fun asked => some asked.2) (ItemCursor.next_of_none exhausted)

/-- Any step but setting the cursor back takes it on by the items that it is asked for. -/
theorem step (stands : browsing.Stands items number asked) {step : CursorStep}
    (notReset : step ≠ .reset number) :
    (browsing.step step).Stands items number (asked + [step].count (.next number)) := by
  by_cases next : step = .next number
  · subst next
    rw [List.count_singleton_self]
    exact stands.next
  · have opened : number < browsing.cursors.length := (List.getElem?_eq_some_iff.mp stands).1
    rw [List.count_singleton, if_neg (by simpa using next)]
    exact (step_other next notReset opened).trans stands

/-- Steps that do not reset a cursor move it as often as it is asked for the next item. -/
theorem after (stands : browsing.Stands items number asked) {steps : List CursorStep}
    (notReset : .reset number ∉ steps) :
    (browsing.after steps).Stands items number (asked + steps.count (.next number)) := by
  induction steps generalizing browsing asked with
  | nil => exact stands
  | cons step steps ih =>
      obtain ⟨first, later⟩ := not_or.mp (mt List.mem_cons.mpr notReset)
      have parted : step :: steps = [step] ++ steps := rfl
      rw [parted, List.count_append, ← Nat.add_assoc]
      exact ih (stands.step (Ne.symm first)) later

end Stands

theorem keeps_ofValue {value : Value} (listed : value.items? = some items) :
    (ofValue value).Keeps items :=
  ⟨listed, fun _ member => absurd member List.not_mem_nil⟩

/-- The cursors on a value stand before the first item when they are opened or set back. -/
theorem stands_of_begins {value : Value} (listed : value.items? = some items)
    {earlier : List CursorStep} {step : CursorStep} (begins : step.Begins number earlier) :
    ((ofValue value).after (earlier ++ [step])).Stands items number 0 := by
  have keeps := keeps_ofValue listed
  have opened : ((ofValue value).after earlier).cursors.length = earlier.count .create :=
    (keeps.length_after earlier).trans (Nat.zero_add _)
  rw [after_append]
  exact (keeps.after earlier).stands_begin opened begins

end Browsing

namespace Value

/-- **Cursors on one value are independent, and each of them gives the whole value.** Whatever is
done with the cursors on an array, a text or a map, the value stays as it is, and a cursor is
changed by nothing but a step on itself. When a cursor is asked for its next item, it answers with
the item at the index that counts how often it has been asked since it was opened or set back for
the last time, or with no item if there is none at this index. Asked until it has none left, a
cursor that has just been opened or set back gives what the value is made of, as many items as `len`
counts, and at least one if and only if the value is true. -/
theorem cursors_answer (value : Value) (iterable : value.kind ∈ iterableKinds)
    (steps : List CursorStep) :
    let browsing := (Browsing.ofValue value).after steps
    browsing.value = value ∧ browsing.cursors.length = steps.count .create ∧
    (∀ step number, step ≠ .next number → step ≠ .reset number →
      number < browsing.cursors.length →
        (browsing.step step).cursors[number]? = browsing.cursors[number]?) ∧
    (∀ earlier step later number, steps = earlier ++ step :: later → step.Begins number earlier →
      .reset number ∉ later →
        browsing.answer? number = some (.ofItem (value.itemAt? (later.count (.next number))))) ∧
    (∀ n, value.itemAt? n = none ↔ Builtin.count value ≤ n) ∧
    (∀ earlier step number, steps = earlier ++ [step] → step.Begins number earlier →
      ∃ cursor, browsing.cursors[number]? = some cursor ∧
        ofItems? value.kind cursor.drain = some value ∧
        (∀ n, cursor.drain[n]? = value.itemAt? n) ∧
        (∀ characterNamed? (n : Int),
          Builtin.len.compute characterNamed? [value] = .ok (.integer .int n) ↔
            n = cursor.drain.length ∧ cursor.drain.length < 2 ^ 63) ∧
        (value.truthy = true ↔ cursor.drain ≠ [])) := by
  intro browsing
  obtain ⟨items, listed⟩ := exists_items iterable
  have keeps := Browsing.keeps_ofValue listed
  refine ⟨Browsing.after_value _ steps, (keeps.length_after steps).trans (Nat.zero_add _),
    fun step number => Browsing.step_other, ?_, fun n => ?_, ?_⟩
  · rintro earlier step later number rfl begins notReset
    have stands := (Browsing.stands_of_begins listed begins).after notReset
    rw [← Browsing.after_append, List.append_assoc, Nat.zero_add] at stands
    rw [← getElem?_items listed]
    exact stands.answer
  · rw [← getElem?_items listed, ← length_items listed, List.getElem?_eq_none_iff]
  · rintro earlier step number rfl begins
    have stands := Browsing.stands_of_begins listed begins
    have drained : (⟨items, min 0 items.length⟩ : ItemCursor).drain = items := by
      rw [ItemCursor.drain_eq, Nat.zero_min, List.drop_zero]
    refine ⟨_, stands, ?_⟩
    rw [drained]
    refine ⟨ofItems?_items listed, getElem?_items listed, fun characterNamed? n => ?_,
      truthy_iff_items listed⟩
    rw [length_items listed]
    exact Builtin.compute_len_eq_ok_iff characterNamed? value n

/-- The first cursor has nothing left, while the second one has been set back. -/
theorem cursors_answer_twoCursors :
    let value := Value.map [("a", .null), ("b", .string "x")]
    let steps : List CursorStep := [.create, .next 0, .create, .next 1, .next 0, .reset 1]
    let browsing := (Browsing.ofValue value).after steps
    value.kind ∈ iterableKinds ∧
      browsing.answer? 0 = some ⟨none, .index 0, false⟩ ∧
      browsing.answer? 1 = some ⟨some .null, .key "a", true⟩ ∧
      (browsing.step (.next 0)).cursors[1]? = browsing.cursors[1]? ∧
      ∃ cursor, browsing.cursors[1]? = some cursor ∧ ofItems? .map cursor.drain = some value := by
  intro value steps browsing
  have iterable : value.kind ∈ iterableKinds := by decide
  obtain ⟨-, opened, other, answers, -, drains⟩ := cursors_answer value iterable steps
  have first : CursorStep.Begins 0 [] .create := .inl ⟨rfl, rfl⟩
  have second : CursorStep.Begins 1 [.create, .next 0, .create, .next 1, .next 0] (.reset 1) :=
    .inr ⟨rfl, by decide⟩
  refine ⟨iterable, answers [] .create _ 0 rfl first (by decide),
    answers _ (.reset 1) [] 1 rfl second List.not_mem_nil,
    other (.next 0) 1 (by decide) (by decide) (by rw [opened]; decide), ?_⟩
  obtain ⟨cursor, there, whole, -⟩ := drains _ (.reset 1) 1 rfl second
  exact ⟨cursor, there, whole⟩

end Value

end FilterScript
