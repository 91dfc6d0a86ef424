import CloudBuckets.Plan

/-! Programs that use one table of adapters, where the building of an adapter may use the table as
well, to any depth. A run keeps all that happens, the events within builds included.
-/

namespace CloudBuckets.Memo

-----------------------------------------------------------------------------------------
-- Programs
-----------------------------------------------------------------------------------------

/-- Something that happens while a program runs. -/
inductive Event
  /-- The adapter of a key is asked for. -/
  | asked (key : Key)
  /-- The factory is called for the key. -/
  | begun (key : Key)
  /-- The factory has returned, or has failed. -/
  | ended (key : Key) (made : Except Fault Adapter)
  /-- Whoever asked for the adapter of the key gets an adapter or an error. -/
  | answered (key : Key) (answer : Except Error Adapter)
  /-- It is looked up whether there is an adapter for the key. -/
  | contained (key : Key) (there : Bool)
  /-- The adapters are counted. -/
  | counted (size : Nat)
  /-- All adapters are forgotten. -/
  | cleared

/-- A program, by what it does first, with what it does after that. It may keep a state of its own,
which what it does for the factory can see and change too. -/
inductive Program (ρ : Type)
  /-- The program is at its end, which for a factory is an adapter or a failure. -/
  | ends (made : Except Fault Adapter)
  /-- Changes the state of its own. -/
  | acts (change : ρ → ρ) (next : ρ → Program ρ)
  /-- Asks for the adapter of a key, where the factory acts like this if it is called for it. -/
  | resolve (key : Key) (factory : String → Option ClientOptions → Program ρ)
    (next : Except Error Adapter → Program ρ)
  | contains (key : Key) (next : Bool → Program ρ)
  | size (next : Nat → Program ρ)
  | clear (next : Program ρ)

/-- An event, with the table after it. -/
structure Moment (τ : Type) where
  event : Event
  table : τ

/-- The state that a program has reached. -/
structure State (ρ τ : Type) where
  /-- What the program keeps for itself. -/
  own : ρ
  table : τ
  /-- What has happened, the latest first. -/
  past : List (Moment τ)

namespace State

variable {ρ τ : Type}

/-- A state in which nothing has happened. -/
def start (own : ρ) (table : τ) : State ρ τ := ⟨own, table, []⟩

/-- The state with another table. -/
def put (table : τ) (w : State ρ τ) : State ρ τ := { w with table }

/-- The state once something has happened. -/
def note (event : Event) (w : State ρ τ) : State ρ τ :=
  { w with past := ⟨event, w.table⟩ :: w.past }

/-- All that has happened, the latest first. -/
def events (w : State ρ τ) : List Event := w.past.map (·.event)

@[simp] theorem put_table (table : τ) (w : State ρ τ) : (w.put table).table = table := rfl

@[simp] theorem put_put (first second : τ) (w : State ρ τ)
    : (w.put first).put second = w.put second :=
  rfl

@[simp] theorem put_self (w : State ρ τ) : w.put w.table = w := rfl

@[simp] theorem note_table (event : Event) (w : State ρ τ) : (w.note event).table = w.table := rfl

@[simp] theorem note_events (event : Event) (w : State ρ τ)
    : (w.note event).events = event :: w.events :=
  rfl

theorem past_suffix_note (event : Event) (w : State ρ τ) : w.past <:+ (w.note event).past :=
  List.suffix_cons _ _

end State

/-- What a factory does when it is called for a project to bill and with options. -/
abbrev Factory (ρ τ : Type) :=
  String → Option ClientOptions → State ρ τ → Except Fault Adapter × State ρ τ

/-- A factory whose calls for a key are seen. -/
def Factory.noted {ρ τ : Type} (key : Key) (factory : Factory ρ τ) : Factory ρ τ :=
  fun project options w =>
    let (made, w) := factory project options (w.note (.begun key))
    (made, w.note (.ended key made))

/-- A kind of table, by what its operations do. -/
structure Table (ρ τ : Type) where
  lookup : τ → Key → Option Adapter
  resolve : Key → Factory ρ τ → State ρ τ → Except Error Adapter × State ρ τ
  contains : τ → Key → Bool
  size : τ → Nat
  clear : τ → τ

/-- What a program comes to with a table, and the state that it reaches. -/
def Program.run {ρ τ : Type} (table : Table ρ τ)
    : Program ρ → State ρ τ → Except Fault Adapter × State ρ τ
  | .ends made, w => (made, w)
  | .acts change next, w => (next (change w.own)).run table { w with own := change w.own }
  | .resolve key factory next, w =>
      let (answer, w) := table.resolve key
        (Factory.noted key fun project options => (factory project options).run table)
        (w.note (.asked key))
      (next answer).run table (w.note (.answered key answer))
  | .contains key next, w =>
      let there := table.contains w.table key
      (next there).run table (w.note (.contained key there))
  | .size next, w =>
      let size := table.size w.table
      (next size).run table (w.note (.counted size))
  | .clear next, w =>
      next.run table ((w.put (table.clear w.table)).note .cleared)

section Builder

variable {ρ τ : Type}

/-- What a program does for the factory, as it is seen when it is called for a key. -/
def Program.builder (table : Table ρ τ) (key : Key)
    (factory : String → Option ClientOptions → Program ρ)
    : Factory ρ τ :=
  Factory.noted key fun project options => (factory project options).run table

theorem Program.builder_eq {table : Table ρ τ} {key : Key}
    {factory : String → Option ClientOptions → Program ρ} {project : String}
    {options : Option ClientOptions} {w v : State ρ τ} {made : Except Fault Adapter}
    (ran : (factory project options).run table (w.note (.begun key)) = (made, v))
    : builder table key factory project options w = (made, v.note (.ended key made)) := by
  simp only [builder, Factory.noted, ran]

/-- A program that asks for an adapter goes on with the answer. -/
theorem Program.run_resolve {table : Table ρ τ} {key : Key}
    {factory : String → Option ClientOptions → Program ρ}
    {next : Except Error Adapter → Program ρ} {w v : State ρ τ} {answer : Except Error Adapter}
    (resolved : table.resolve key (builder table key factory) (w.note (.asked key)) = (answer, v))
    : (Program.resolve key factory next).run table w
      = (next answer).run table (v.note (.answered key answer)) := by
  simp only [builder] at resolved
  simp only [Program.run, resolved]

end Builder

/-- What has happened, with what was stored after each event. -/
def Table.seen {ρ τ : Type} (table : Table ρ τ) (w : State ρ τ)
    : List (Moment (Key → Option Adapter)) :=
  w.past.map fun moment => ⟨moment.event, table.lookup moment.table⟩

-----------------------------------------------------------------------------------------
-- Calls in progress
-----------------------------------------------------------------------------------------

/-- The calls for keys that have not come to their ends, the outermost first, and whether there has
been a clear since they began. Whatever else happens meanwhile, happens in their builds. -/
def inProgress : List Event → List (Key × Bool)
  | [] => []
  | .asked key :: older => inProgress older ++ [(key, false)]
  | .answered _ _ :: older => (inProgress older).dropLast
  | .cleared :: older => (inProgress older).map fun call => (call.1, true)
  | _ :: older => inProgress older

/-- A key whose adapter is being built has only been asked for if there has been a clear since each
of its builds began. -/
def Admissible : List Event → Prop
  | [] => True
  | .asked key :: older => (key, false) ∉ inProgress older ∧ Admissible older
  | _ :: older => Admissible older

theorem Admissible.of_cons {event : Event} {older : List Event}
    (admissible : Admissible (event :: older))
    : Admissible older := by
  cases event with
  | asked key => exact admissible.2
  | _ => exact admissible

theorem Admissible.suffix {older events : List Event} (admissible : Admissible events)
    (within : older <:+ events)
    : Admissible older := by
  obtain ⟨newer, rfl⟩ := within
  induction newer with
  | nil => exact admissible
  | cons event rest ih => exact ih admissible.of_cons

theorem Admissible.of_past {ρ τ : Type} {w v : State ρ τ} (admissible : Admissible v.events)
    (within : w.past <:+ v.past)
    : Admissible w.events :=
  admissible.suffix (within.map _)

instance : ∀ events : List Event, Decidable (Admissible events)
  | [] => .isTrue trivial
  | .asked key :: older =>
      have := instDecidableAdmissible older
      inferInstanceAs (Decidable ((key, false) ∉ inProgress older ∧ Admissible older))
  | .begun _ :: older | .ended _ _ :: older | .answered _ _ :: older | .contained _ _ :: older
  | .counted _ :: older | .cleared :: older => instDecidableAdmissible older

end CloudBuckets.Memo
