import Handheld.Proofs.Machine.Alike

namespace Handheld

/-!
# Actions in parallel

Two machines are alike when they differ only in what a program does not get to
see: the bitmap chosen last, the log, the order of the host's entries and slots
of the stack above a depth. An action is parallel when it ends in the same way in
any two machines that are alike, and leaves machines that are alike. The rules
follow the ways in which actions are put together, so a long action is parallel
because its parts are.
-/

namespace Machine

/-- The same machine but for its device, files and stack, which are alike. -/
inductive Alike
    (fonts : FontTable)
    (depth : Nat) :
    Machine → Machine → Prop where
  | intro
      (machine : Machine)
      {device : Device}
      {files : HandleTable}
      {stack : DataStack}
      (devices : machine.device.Alike fonts device)
      (tables : machine.files.Alike files)
      (dataStacks : machine.stack.Alike depth stack) :
      Alike fonts depth machine { machine with device, files, stack }

/-- An action that cannot tell machines that are alike apart. -/
def Parallel (action : Action α) : Prop :=
  ∀ fonts depth machine other,
    Alike fonts depth machine other →
    SameAnswer (Alike fonts depth) (machine.outcome action) (other.outcome action)

section Registers

variable
  {fonts : FontTable}
  {depth : Nat}
  {machine other : Machine}
  (alike : Alike fonts depth machine other)

include alike

theorem Alike.finished : other.finished = machine.finished := by
  cases alike
  rfl

theorem Alike.devices : machine.device.Alike fonts other.device := by
  cases alike
  assumption

theorem Alike.tables : machine.files.Alike other.files := by
  cases alike
  assumption

theorem Alike.dataStacks : machine.stack.Alike depth other.stack := by
  cases alike
  assumption

end Registers

namespace Parallel

/-- After a parallel action it is enough to go on alike from the two machines at hand. -/
theorem bindAt
    {action : Action α}
    {next : α → Action β}
    (first : Parallel action)
    {fonts : FontTable}
    {depth : Nat}
    {machine other : Machine}
    (alike : Alike fonts depth machine other)
    (second :
      ∀ value middle otherMiddle,
        machine.outcome action = (.ok value, middle) →
        Alike fonts depth middle otherMiddle →
        SameAnswer (Alike fonts depth)
          (middle.outcome (next value))
          (otherMiddle.outcome (next value))) :
    SameAnswer (Alike fonts depth)
      (machine.outcome (action >>= next))
      (other.outcome (action >>= next)) := by
  obtain ⟨result, middle, otherMiddle, done, doneToo, middleAlike⟩ :=
    (first fonts depth machine other alike).cases
  cases result with
  | error fault =>
      rw [outcome_bind_of_error done, outcome_bind_of_error doneToo]
      exact ⟨rfl, middleAlike⟩
  | ok value =>
      rw [outcome_bind_of_ok done, outcome_bind_of_ok doneToo]
      exact second value middle otherMiddle done middleAlike

theorem bind
    {action : Action α}
    {next : α → Action β}
    (first : Parallel action)
    (second : ∀ value, Parallel (next value)) :
    Parallel (action >>= next) := by
  intro fonts depth machine other alike
  refine first.bindAt alike ?_
  intro value middle otherMiddle _ middleAlike
  exact second value fonts depth middle otherMiddle middleAlike

theorem ofPure (value : α) : Parallel (pure value) :=
  fun _ _ _ _ alike => ⟨rfl, alike⟩

theorem ofThrow (fault : Fault) : Parallel (throw fault : Action α) :=
  fun _ _ _ _ alike => ⟨rfl, alike⟩

theorem ofCheck (result : Except Fault α) : Parallel (check result) := by
  intro fonts depth machine other alike
  rw [outcome_check, outcome_check]
  exact ⟨rfl, alike⟩

theorem ofIte
    {condition : Prop}
    [Decidable condition]
    {first second : Action α}
    (positive : Parallel first)
    (negative : Parallel second) :
    Parallel (if condition then first else second) := by
  split
  · exact positive
  · exact negative

/-- What is looked up in the machine must be the same in machines that are alike. -/
theorem bindGet
    {next : Machine → Action β}
    (same :
      ∀ {fonts depth machine other},
        Alike fonts depth machine other →
        next other = next machine)
    (each : ∀ machine, Parallel (next machine)) :
    Parallel (get >>= next) := by
  intro fonts depth machine other alike
  rw [outcome_bind_of_ok (outcome_get machine), outcome_bind_of_ok (outcome_get other), same alike]
  exact each machine fonts depth machine other alike

/-- Everything but device, files and stack may be looked up. -/
theorem bindRegisters
    {next : Machine → Action β}
    (same :
      ∀ machine device files stack,
        next { machine with device, files, stack } = next machine)
    (each : ∀ machine, Parallel (next machine)) :
    Parallel (get >>= next) := by
  refine .bindGet ?_ each
  rintro fonts depth machine _ ⟨_, _, _⟩
  exact same machine _ _ _

/-- Everything but device, files and stack may be changed, by what may be looked up. -/
theorem ofModifyGet
    {change : Machine → α × Machine}
    (same :
      ∀ machine device files stack,
        change { machine with device, files, stack } =
          ((change machine).1, { (change machine).2 with device, files, stack })) :
    Parallel (modifyGet change : Action α) := by
  rintro fonts depth machine _ @⟨device, files, stack, devices, tables, dataStacks⟩
  have kept : (change machine).2 =
      { (change machine).2 with
        device := machine.device, files := machine.files, stack := machine.stack } :=
    congrArg Prod.snd (same machine machine.device machine.files machine.stack)
  rw [outcome_modifyGet, outcome_modifyGet, same machine device files stack]
  refine ⟨rfl, .intro (change machine).2 ?_ ?_ ?_⟩
  · rw [kept]
    exact devices
  · rw [kept]
    exact tables
  · rw [kept]
    exact dataStacks

theorem ofModify
    {change : Machine → Machine}
    (same :
      ∀ machine device files stack,
        change { machine with device, files, stack } =
          { change machine with device, files, stack }) :
    Parallel (modify change : Action Unit) :=
  .ofModifyGet fun machine device files stack =>
    congrArg (Prod.mk ()) (same machine device files stack)

end Parallel

theorem parallel_onDevice
    {change : Device → Device}
    (respects :
      ∀ {fonts : FontTable} {device other : Device},
        device.Alike fonts other →
        Device.Alike fonts (change device) (change other)) :
    Parallel (onDevice change) := by
  rintro fonts depth machine _ ⟨devices, tables, dataStacks⟩
  exact ⟨rfl, .intro { machine with device := _ } (respects devices) tables dataStacks⟩

theorem parallel_askDevice
    {question : Device → α × Device}
    (respects :
      ∀ {fonts : FontTable} {device other : Device},
        device.Alike fonts other →
        SameAnswer (Device.Alike fonts) (question device) (question other)) :
    Parallel (askDevice question) := by
  rintro fonts depth machine _ ⟨devices, tables, dataStacks⟩
  obtain ⟨answer, state⟩ := respects devices
  exact ⟨congrArg Except.ok answer, .intro { machine with device := _ } state tables dataStacks⟩

theorem parallel_onRam (change : Ram → Ram) : Parallel (onRam change) :=
  parallel_onDevice fun alike => alike.setRam change

theorem parallel_inRam (look : Ram → α) : Parallel (inRam look) := by
  rintro fonts depth machine _ ⟨devices, tables, dataStacks⟩
  refine ⟨?_, .intro machine devices tables dataStacks⟩
  exact congrArg (Except.ok ∘ look) devices.ram

theorem parallel_onFiles
    {operation : HandleTable → Except FileError α × HandleTable}
    (respects :
      ∀ {table other : HandleTable},
        table.Alike other →
        SameAnswer HandleTable.Alike (operation table) (operation other)) :
    Parallel (onFiles operation) := by
  rintro fonts depth machine _ ⟨devices, tables, dataStacks⟩
  obtain ⟨answer, state⟩ := respects tables
  exact ⟨congrArg Except.ok answer, .intro { machine with files := _ } devices state dataStacks⟩

theorem parallel_updateFiles
    {operation : HandleTable → Except FileError (α × HandleTable)}
    (respects :
      ∀ {table other : HandleTable},
        table.Alike other →
        Agree (SameAnswer HandleTable.Alike) (operation table) (operation other)) :
    Parallel (updateFiles operation) := by
  refine parallel_onFiles ?_
  intro table other tables
  obtain ⟨reason, refused, refusedToo⟩ | ⟨done, doneToo, first, second, same⟩ :=
    (respects tables).cases
  · rw [refused, refusedToo]
    exact ⟨rfl, tables⟩
  · rw [first, second]
    exact ⟨congrArg Except.ok same.answer, same.state⟩

section Stack

theorem parallel_push (value : Word) : Parallel (push value) := by
  rintro fonts depth machine _ ⟨devices, tables, dataStacks⟩
  obtain ⟨fault, refused, refusedToo⟩ | ⟨after, afterToo, done, doneToo, same⟩ :=
    (dataStacks.push value).cases
  · rw [outcome_push_of_error refused, outcome_push_of_error refusedToo]
    exact ⟨rfl, .intro machine devices tables dataStacks⟩
  · rw [outcome_push done, outcome_push doneToo]
    exact ⟨rfl, .intro { machine with stack := after } devices tables same⟩

theorem parallel_pushBool (value : Bool) : Parallel (pushBool value) :=
  parallel_push _

theorem parallel_pop : Parallel pop := by
  rintro fonts depth machine _ ⟨devices, tables, dataStacks⟩
  obtain ⟨fault, refused, refusedToo⟩ | ⟨⟨_, rest⟩, ⟨value, restToo⟩, done, doneToo, rfl, same⟩ :=
    dataStacks.pop.cases
  · rw [outcome_pop_of_error refused, outcome_pop_of_error refusedToo]
    exact ⟨rfl, .intro machine devices tables dataStacks⟩
  · rw [outcome_pop done, outcome_pop doneToo]
    exact ⟨rfl, .intro { machine with stack := rest } devices tables same⟩

theorem parallel_take (count : Nat) : Parallel (take count) := by
  rintro fonts depth machine _ ⟨devices, tables, dataStacks⟩
  obtain ⟨fault, refused, refusedToo⟩ | ⟨⟨_, rest⟩, ⟨values, restToo⟩, done, doneToo, rfl, same⟩ :=
    (dataStacks.take count).cases
  · rw [outcome_take_of_error refused, outcome_take_of_error refusedToo]
    exact ⟨rfl, .intro machine devices tables dataStacks⟩
  · rw [outcome_take done, outcome_take doneToo]
    exact ⟨rfl, .intro { machine with stack := rest } devices tables same⟩

theorem parallel_takeTwo : Parallel takeTwo :=
  (parallel_take 2).bind fun _ => .ofPure _

theorem parallel_takeThree : Parallel takeThree :=
  (parallel_take 3).bind fun _ => .ofPure _

theorem parallel_takeFour : Parallel takeFour :=
  (parallel_take 4).bind fun _ => .ofPure _

theorem parallel_takeFive : Parallel takeFive :=
  (parallel_take 5).bind fun _ => .ofPure _

theorem parallel_takeSix : Parallel takeSix :=
  (parallel_take 6).bind fun _ => .ofPure _

theorem parallel_popAddress : Parallel popAddress :=
  parallel_pop.bind fun _ => .ofPure _

end Stack

section Memory

theorem parallel_checkRange (address length : Nat) : Parallel (checkRange address length) :=
  .ofCheck _

theorem parallel_stringAt (address : Nat) : Parallel (stringAt address) := by
  refine (parallel_inRam _).bind fun found => ?_
  cases found with
  | some text => exact .ofPure text
  | none => exact .ofThrow _

theorem parallel_storeString
    (address : Nat)
    (text : List UInt8) :
    Parallel (storeString address text) :=
  (parallel_checkRange _ _).bind fun _ => parallel_onRam _

end Memory

section Code

theorem parallel_advance (count : Nat) : Parallel (advance count) := by
  refine .bindRegisters (fun _ _ _ _ => rfl) fun machine => .ofIte ?_ (.ofThrow _)
  exact (Parallel.ofModify fun _ _ _ _ => rfl).bind fun _ => .ofPure _

theorem parallel_fetch (count : Nat) : Parallel (fetch count) :=
  (parallel_advance count).bind fun _ => .bindRegisters (fun _ _ _ _ => rfl) fun _ => .ofPure _

theorem parallel_fetchWord : Parallel fetchWord :=
  (parallel_fetch 2).bind fun _ => .ofPure _

theorem parallel_fetchSigned16 : Parallel fetchSigned16 :=
  (parallel_fetch 2).bind fun _ => .ofPure _

theorem parallel_fetchBytes (count : Nat) : Parallel (fetchBytes count) :=
  (parallel_advance count).bind fun _ => .bindRegisters (fun _ _ _ _ => rfl) fun _ => .ofPure _

theorem parallel_frameBase : Parallel frameBase := by
  refine .bindRegisters (fun _ _ _ _ => rfl) fun machine => ?_
  cases machine.frameBase? with
  | some base => exact .ofPure base
  | none => exact .ofThrow _

end Code

end Machine

end Handheld
