import Mathlib.Data.List.DropRight
import Mathlib.Data.List.Nodup
import Chip8.Proofs.Memory

/-!
The bus as a partial map from addresses to bytes, with a log. What a bus answers is a function of the
calls that it has answered before: the ranges that it accepted say which addresses there are, the last
write to an address says what is read there, and the log tells of the accesses since it was last drained.
-/

namespace Chip8

namespace Bus

/-- A call from outside. `attach` is the making of a memory, which the bus numbers. -/
inductive Call where
  | attach (size : Int)
  | register (first last : Int) (number : Nat)
  | read (address : Int)
  | peek (address : Int)
  | write (address data : Int)
  | drain
  deriving DecidableEq

inductive Reply where
  | done
  | number (number : Nat)
  | byte (data : Int)
  | log (accesses : List Access)
  deriving DecidableEq

namespace Call

def perform : Call → Action Bus Reply
  | attach size => Reply.number <$> attachMemory size
  | register first last number => (fun _ => Reply.done) <$> Bus.register first last number
  | read address => Reply.byte <$> Bus.read address
  | peek address => Reply.byte <$> Bus.peek address
  | write address data => (fun _ => Reply.done) <$> Bus.write address data
  | drain => Reply.log <$> Bus.drain

def outcome (call : Call) (bus : Bus) : Except Problem Reply :=
  match call.perform bus with
  | .ok reply _ => .ok reply
  | .error problem _ => .error problem

end Call

structure Exchange where
  call : Call
  outcome : Except Problem Reply

namespace Exchange

/-- The range that a call was granted. -/
def range? : Exchange → Option Mapping
  | ⟨.register first last number, .ok _⟩ => some (Mapping.mk first last number)
  | _ => none

/-- What a call wrote to an address. -/
def written? (address : Int) : Exchange → Option Int
  | ⟨.write place data, .ok _⟩ => if place = address then some data else none
  | _ => none

def access? : Exchange → Option Access
  | ⟨.read address, .ok (.byte data)⟩ => some (Access.mk .read address data)
  | ⟨.write address data, .ok _⟩ => some (Access.mk .write address data)
  | _ => none

def drains (exchange : Exchange) : Bool := decide (exchange.call = .drain)

variable (call : Call) (problem : Problem)

@[simp] theorem range?_error : range? ⟨call, .error problem⟩ = none := by
  cases call <;> rfl

@[simp] theorem written?_error (address : Int) : written? address ⟨call, .error problem⟩ = none := by
  cases call <;> rfl

@[simp] theorem access?_error : access? ⟨call, .error problem⟩ = none := by
  cases call <;> rfl

end Exchange

/-- The calls that a bus has answered since it was created. -/
inductive Served : List Exchange → Bus → Prop
  | created : Served [] {}
  | called {past : List Exchange} {bus : Bus} (call : Call) : Served past bus →
      Served (past ++ [Exchange.mk call (call.outcome bus)]) (call.perform.left bus)

def ranges (past : List Exchange) : List Mapping := past.filterMap Exchange.range?

def Accessible (past : List Exchange) (address : Int) : Prop :=
  ∃ range ∈ ranges past, range.first ≤ address ∧ address ≤ range.last

instance (past : List Exchange) (address : Int) : Decidable (Accessible past address) :=
  inferInstanceAs (Decidable (∃ range ∈ ranges past, range.first ≤ address ∧ address ≤ range.last))

def lastWritten (past : List Exchange) (address : Int) : Int :=
  (past.filterMap (Exchange.written? address)).getLast?.getD 0

def sinceDrain (past : List Exchange) : List Access :=
  (past.rtakeWhile fun exchange => !exchange.drains).filterMap Exchange.access?

section Appending

variable (past : List Exchange) (exchange : Exchange)

@[simp] theorem ranges_append :
    ranges (past ++ [exchange]) = ranges past ++ exchange.range?.toList := by
  rw [ranges, List.filterMap_append, ← ranges]
  cases granted : exchange.range? <;> simp [granted]

@[simp] theorem lastWritten_append (address : Int) :
    lastWritten (past ++ [exchange]) address =
      (exchange.written? address).getD (lastWritten past address) := by
  rw [lastWritten, List.filterMap_append]
  cases written : exchange.written? address <;> simp [lastWritten, written]

@[simp] theorem sinceDrain_append :
    sinceDrain (past ++ [exchange]) =
      if exchange.drains then [] else sinceDrain past ++ exchange.access?.toList := by
  rw [sinceDrain, List.rtakeWhile_concat]
  cases drained : exchange.drains with
  | true => simp
  | false =>
      cases access : exchange.access? <;> simp [sinceDrain, access]

end Appending

/-- The bus with another byte at an address. -/
def storing (bus : Bus) (address : Int) (byte : UInt8) : Bus :=
  match bus.mappings.find? (·.covers address) with
  | none => bus
  | some mapping =>
      match bus.devices[mapping.device]? with
      | some (.memory cells) =>
          let changed := cells.setIfInBounds (address - mapping.first).toNat byte
          { bus with devices := bus.devices.setIfInBounds mapping.device (.memory changed) }
      | _ => bus

section Storing

variable (bus : Bus) (address : Int) (byte : UInt8)

@[simp] theorem mappings_storing : (bus.storing address byte).mappings = bus.mappings := by
  unfold storing
  split
  · rfl
  · split <;> rfl

@[simp] theorem activity_storing : (bus.storing address byte).activity = bus.activity := by
  unfold storing
  split
  · rfl
  · split <;> rfl

theorem devices_storing {number : Nat} (free : number ∉ bus.mappings.map Mapping.device) :
    (bus.storing address byte).devices[number]? = bus.devices[number]? := by
  unfold storing
  split
  · rfl
  next mapping found =>
    have other : mapping.device ≠ number := by
      rintro rfl
      exact free (List.mem_map_of_mem (List.mem_of_find?_eq_some found))
    split
    · exact Array.getElem?_setIfInBounds_ne other
    · rfl

end Storing

theorem stored_cell {bus : Bus} {address : Int} {mapping : Mapping} {cells : Array UInt8}
    (found : bus.mappings.find? (·.covers address) = some mapping)
    (attached : bus.devices[mapping.device]? = some (.memory cells)) :
    bus.stored address = cells.getD (address - mapping.first).toNat 0 := by
  simp only [stored, found, attached]

/-- Every way in which a bus of memories answers a call. -/
inductive Answered (bus : Bus) : Call → EStateM.Result Problem Bus Reply → Prop
  | refused {call : Call} {problem : Problem} : call ≠ .drain →
      (∀ offset size, problem ≠ .fault (.outOfBounds (.cell offset size))) →
      Answered bus call (.error problem bus)
  | attached (size : Int) :
      Answered bus (.attach size) (.ok (.number bus.devices.size)
        { bus with devices := bus.devices.push (.blankMemory size.toNat) })
  | registered {first last : Int} {number : Nat} {device : Device} : 0 ≤ first ∧ first ≤ last →
      bus.devices[number]? = some device →
      (∀ size, device.size? = some size → (size : Int) = last - first + 1) →
      Answered bus (.register first last number) (.ok .done
        { bus with mappings := bus.mappings ++ [Mapping.mk first last number] })
  | read {address : Int} : bus.mapped address = true →
      Answered bus (.read address) (.ok (.byte (bus.stored address).toNat)
        (bus.noting [bus.reading address]))
  | peeked {address : Int} : bus.mapped address = true →
      Answered bus (.peek address) (.ok (.byte (bus.stored address).toNat) bus)
  | written {address data : Int} : bus.mapped address = true → 0 ≤ data ∧ data ≤ 0xFF →
      Answered bus (.write address data) (.ok .done
        ((bus.storing address (UInt8.ofNat data.toNat)).noting [Access.mk .write address data]))
  | drained : Answered bus .drain (.ok (.log bus.activity) { bus with activity := [] })

namespace Fitted

variable {bus : Bus} (fitted : bus.Fitted)
include fitted

theorem peek_eq (address : Int) :
    peek address bus =
      if bus.mapped address then .ok (bus.stored address).toNat bus
      else .error (.fault (.outOfBounds (.unmapped address))) bus := by
  rw [peek_apply, fitted.answer_eq]
  cases bus.mapped address <;> rfl

theorem read_eq (address : Int) :
    read address bus =
      if bus.mapped address then .ok (bus.stored address).toNat (bus.noting [bus.reading address])
      else .error (.fault (.outOfBounds (.unmapped address))) bus := by
  rw [read_apply, fitted.answer_eq]
  cases bus.mapped address <;> rfl

theorem write_eq (address data : Int) :
    write address data bus =
      if bus.mapped address then
        if 0 ≤ data ∧ data ≤ 0xFF then
          .ok () ((bus.storing address (UInt8.ofNat data.toNat)).noting
            [Access.mk .write address data])
        else .error (.misuse (.byteOutOfRange data)) bus
      else .error (.fault (.outOfBounds (.unmapped address))) bus := by
  rw [write_apply]
  cases fitted.place address with
  | nowhere found unmapped => simp [locate?, found, unmapped]
  | cell mapping cells found isMapped attached first last =>
      have inside : 0 ≤ address - mapping.first ∧ address - mapping.first < cells.size := by omega
      have located : bus.locate? address = some (mapping, .memory cells) := by
        simp [locate?, found, attached]
      simp only [located, Device.write, if_pos inside, isMapped, if_true, storing, found, attached]
      by_cases isByte : 0 ≤ data ∧ data ≤ 0xFF
      · rw [if_pos isByte, if_pos isByte]
      · rw [if_neg isByte, if_neg isByte]

theorem answered (call : Call) : Answered bus call (call.perform bus) := by
  cases call with
  | attach size =>
      rw [Call.perform, Action.map_apply]
      by_cases empty : size ≤ 0
      · rw [attachMemory, if_pos empty]
        exact .refused (by simp) (by simp)
      · rw [attachMemory, if_neg empty]
        exact .attached size
  | register first last number =>
      rw [Call.perform, Action.map_apply]
      obtain ⟨cause, refused⟩ | ⟨order, device, present, span, done⟩ :=
        bus.register_cases first last number
      · rw [refused]
        exact .refused (by simp) (by simp)
      · rw [done]
        exact .registered order present span
  | read address =>
      rw [Call.perform, Action.map_apply, fitted.read_eq]
      by_cases isMapped : bus.mapped address = true
      · rw [if_pos isMapped]
        exact .read isMapped
      · rw [if_neg isMapped]
        exact .refused (by simp) (by simp)
  | peek address =>
      rw [Call.perform, Action.map_apply, fitted.peek_eq]
      by_cases isMapped : bus.mapped address = true
      · rw [if_pos isMapped]
        exact .peeked isMapped
      · rw [if_neg isMapped]
        exact .refused (by simp) (by simp)
  | write address data =>
      rw [Call.perform, Action.map_apply, fitted.write_eq]
      by_cases isMapped : bus.mapped address = true
      · rw [if_pos isMapped]
        by_cases isByte : 0 ≤ data ∧ data ≤ 0xFF
        · rw [if_pos isByte]
          exact .written isMapped isByte
        · rw [if_neg isByte]
          exact .refused (by simp) (by simp)
      · rw [if_neg isMapped]
        exact .refused (by simp) (by simp)
  | drain => exact .drained

theorem stored_attached (device : Device) (address : Int) :
    stored { bus with devices := bus.devices.push device } address = bus.stored address := by
  cases fitted.place address with
  | nowhere found => simp only [stored, found]
  | cell mapping cells found _ attached =>
      have bound := (Array.getElem?_eq_some_iff.mp attached).1
      simp only [stored, found, Array.getElem?_push, if_neg (Nat.ne_of_lt bound)]

theorem storing (address : Int) (byte : UInt8) : (bus.storing address byte).Fitted := by
  cases fitted.place address with
  | nowhere found =>
      rw [Bus.storing, found]
      exact fitted
  | cell mapping cells found _ attached =>
      simp only [Bus.storing, found, attached]
      exact fitted.rewritten (.replaced bus.activity (List.mem_of_find?_eq_some found) attached
        Array.size_setIfInBounds)

/-- Where no memory is mapped twice, every address has a cell of its own. -/
theorem stored_storing (distinct : (bus.mappings.map Mapping.device).Nodup) {address : Int}
    (isMapped : bus.mapped address = true) (byte : UInt8) (other : Int) :
    (bus.storing address byte).stored other = if other = address then byte else bus.stored other := by
  cases fitted.place address with
  | nowhere _ unmapped =>
      rw [unmapped] at isMapped
      cases isMapped
  | cell mapping cells found _ attached first last =>
      let changed := cells.setIfInBounds (address - mapping.first).toNat byte
      have after : bus.storing address byte =
          { bus with devices := bus.devices.setIfInBounds mapping.device (.memory changed) } := by
        simp only [Bus.storing, found, attached, changed]
      have bound := (Array.getElem?_eq_some_iff.mp attached).1
      rw [after]
      by_cases same : other = address
      · have inside : (address - mapping.first).toNat < cells.size := by omega
        rw [if_pos same, same]
        simp [Bus.stored, found, bound, inside, changed]
      · rw [if_neg same]
        cases fitted.place other with
        | nowhere nowhere => simp [Bus.stored, nowhere]
        | cell place others elsewhere _ present start _ =>
            by_cases shared : mapping.device = place.device
            · -- A shared memory is a shared range, and offsets in one range differ as addresses do.
              have one : mapping = place := List.inj_on_of_nodup_map distinct
                (List.mem_of_find?_eq_some found) (List.mem_of_find?_eq_some elsewhere) shared
              subst one
              have apart : (address - mapping.first).toNat ≠ (other - mapping.first).toNat := by omega
              rw [stored_cell elsewhere attached]
              simp [Bus.stored, elsewhere, bound, changed, apart]
            · simp [Bus.stored, elsewhere, present, shared]

end Fitted

/-- A blank memory adds only zeros. -/
theorem stored_registered {bus : Bus} {number size : Nat}
    (blank : bus.devices[number]? = some (.blankMemory size)) (first last address : Int) :
    stored { bus with mappings := bus.mappings ++ [Mapping.mk first last number] } address =
      bus.stored address := by
  cases found : bus.mappings.find? (·.covers address) with
  | some mapping => simp [stored, List.find?_append, found]
  | none =>
      cases covered : (Mapping.mk first last number).covers address with
      | false => simp [stored, List.find?_append, found, covered]
      | true =>
          simp only [stored, List.find?_append, found, covered, blank, Device.blankMemory,
            List.find?_cons, Option.none_or, Array.getD_eq_getD_getElem?, Array.getElem?_replicate]
          split <;> rfl

/-- A bus whose past says which ranges it has, what they hold and what its log tells. -/
structure Described (past : List Exchange) (bus : Bus) : Prop where
  fitted : bus.Fitted
  fresh : ∀ number device, bus.devices[number]? = some device →
    number ∉ bus.mappings.map Mapping.device → ∃ size, device = .blankMemory size
  ordered : ∀ mapping ∈ bus.mappings, 0 ≤ mapping.first ∧ mapping.first ≤ mapping.last
  mappings : bus.mappings = ranges past
  activity : bus.activity = sinceDrain past
  stored : ∀ address, ((bus.stored address).toNat : Int) = lastWritten past address

namespace Described

variable {past : List Exchange} {bus after : Bus} {exchange : Exchange}

theorem created : Described [] {} := by
  constructor
  case fitted =>
    intro mapping member
    cases member
  case fresh =>
    intro number device present
    cases present
  case ordered =>
    intro mapping member
    cases member
  case mappings => rfl
  case activity => rfl
  case stored =>
    intro address
    rfl

/-- An exchange that only the log shows. -/
theorem logged (described : Described past bus) (devices : after.devices = bus.devices)
    (mappings : after.mappings = bus.mappings)
    (activity : after.activity = sinceDrain (past ++ [exchange])) (ungranted : exchange.range? = none)
    (unwritten : ∀ address, exchange.written? address = none) :
    Described (past ++ [exchange]) after := by
  constructor
  case fitted => exact described.fitted.congr devices mappings
  case fresh =>
    rw [devices, mappings]
    exact described.fresh
  case ordered =>
    rw [mappings]
    exact described.ordered
  case mappings => simp [mappings, described.mappings, ungranted]
  case activity => exact activity
  case stored =>
    intro address
    rw [stored_congr devices mappings, described.stored, lastWritten_append, unwritten, Option.getD_none]

theorem attached (described : Described past bus) (size : Int) (outcome : Except Problem Reply) :
    Described (past ++ [⟨.attach size, outcome⟩])
      { bus with devices := bus.devices.push (.blankMemory size.toNat) } := by
  constructor
  case fitted => exact described.fitted.attached _
  case fresh =>
    intro number device present unmapped
    rw [Array.getElem?_push] at present
    split at present
    · exact ⟨_, (Option.some.inj present).symm⟩
    · exact described.fresh number device present unmapped
  case ordered => exact described.ordered
  case mappings => simp [described.mappings, Exchange.range?]
  case activity => simp [described.activity, Exchange.drains, Exchange.access?]
  case stored =>
    intro address
    rw [described.fitted.stored_attached, described.stored, lastWritten_append]
    rfl

theorem registered (described : Described past bus) {first last : Int} {number : Nat} {device : Device}
    {reply : Reply} (order : 0 ≤ first ∧ first ≤ last) (present : bus.devices[number]? = some device)
    (span : ∀ size, device.size? = some size → (size : Int) = last - first + 1)
    (free : number ∉ bus.mappings.map Mapping.device) :
    Described (past ++ [⟨.register first last number, .ok reply⟩])
      { bus with mappings := bus.mappings ++ [Mapping.mk first last number] } := by
  obtain ⟨size, rfl⟩ := described.fresh number device present free
  constructor
  case fitted => exact described.fitted.registered present (span _ rfl)
  case fresh =>
    intro other device present unmapped
    refine described.fresh other device present fun already => unmapped ?_
    rw [List.map_append]
    exact List.mem_append_left _ already
  case ordered =>
    intro mapping member
    rcases List.mem_append.mp member with old | new
    · exact described.ordered mapping old
    · rw [List.mem_singleton.mp new]
      exact order
  case mappings => simp [described.mappings, Exchange.range?]
  case activity => simp [described.activity, Exchange.drains, Exchange.access?]
  case stored =>
    intro address
    rw [stored_registered present, described.stored, lastWritten_append]
    rfl

theorem written (described : Described past bus) (distinct : (bus.mappings.map Mapping.device).Nodup)
    {address data : Int} {reply : Reply} (isMapped : bus.mapped address = true)
    (isByte : 0 ≤ data ∧ data ≤ 0xFF) :
    Described (past ++ [⟨.write address data, .ok reply⟩])
      ((bus.storing address (UInt8.ofNat data.toNat)).noting [Access.mk .write address data]) := by
  let byte := UInt8.ofNat data.toNat
  have mappings : (bus.storing address byte).mappings = bus.mappings := bus.mappings_storing _ _
  constructor
  case fitted => exact (described.fitted.storing address byte).congr rfl rfl
  case fresh =>
    intro number device present unmapped
    rw [mappings_noting, mappings] at unmapped
    rw [devices_noting, bus.devices_storing address byte unmapped] at present
    exact described.fresh number device present unmapped
  case ordered =>
    rw [mappings_noting, mappings]
    exact described.ordered
  case mappings => simp [described.mappings, Exchange.range?]
  case activity => simp [noting, described.activity, Exchange.drains, Exchange.access?]
  case stored =>
    intro other
    have kept : ((bus.storing address byte).noting [Access.mk .write address data]).stored =
        (bus.storing address byte).stored := stored_congr rfl rfl
    rw [kept, described.fitted.stored_storing distinct isMapped, lastWritten_append, Exchange.written?]
    by_cases same : other = address
    · rw [if_pos same, if_pos same.symm, Option.getD_some]
      simp only [byte, UInt8.toNat_ofNat']
      omega
    · rw [if_neg same, if_neg (Ne.symm same), Option.getD_none]
      exact described.stored other

theorem next (described : Described past bus) (call : Call)
    (distinct : ((ranges (past ++ [⟨call, call.outcome bus⟩])).map Mapping.device).Nodup) :
    Described (past ++ [⟨call, call.outcome bus⟩]) (call.perform.left bus) := by
  have answered := described.fitted.answered call
  rw [Call.outcome] at distinct
  rw [Call.outcome, Action.left]
  generalize call.perform bus = result at answered distinct ⊢
  rw [ranges_append, ← described.mappings, List.map_append, List.nodup_append] at distinct
  cases answered with
  | refused other =>
      refine described.logged rfl rfl ?_ (by simp) (by simp)
      simp [described.activity, Exchange.drains, other]
  | attached size => exact described.attached size _
  | registered order present span =>
      -- A memory that is mapped now was not mapped before, so it is still blank.
      refine described.registered order present span fun taken => ?_
      exact distinct.2.2 _ taken _ (List.mem_singleton.mpr rfl) rfl
  | @read address isMapped =>
      refine described.logged rfl rfl ?_ rfl fun _ => rfl
      simp [noting, reading, described.activity, Exchange.drains, Exchange.access?]
  | peeked isMapped =>
      refine described.logged rfl rfl ?_ rfl fun _ => rfl
      simp [described.activity, Exchange.drains, Exchange.access?]
  | written isMapped isByte => exact described.written distinct.1 isMapped isByte
  | drained =>
      refine described.logged rfl rfl ?_ rfl fun _ => rfl
      simp [Exchange.drains]

end Described

theorem Served.described {past : List Exchange} {bus : Bus} (served : Served past bus)
    (distinct : ((ranges past).map Mapping.device).Nodup) : Described past bus := by
  induction served with
  | created => exact .created
  | called call _ ih =>
      refine (ih ?_).next call distinct
      rw [ranges_append, List.map_append] at distinct
      exact distinct.of_append_left

theorem foldl_max_last (mappings : List Mapping) (start : Int) :
    let size := mappings.foldl (fun size mapping => max size (mapping.last + 1)) start
    start ≤ size ∧ (∀ mapping ∈ mappings, mapping.last < size) ∧
      (size = start ∨ ∃ mapping ∈ mappings, size = mapping.last + 1) := by
  induction mappings generalizing start with
  | nil => exact ⟨Int.le_refl start, by simp, .inl rfl⟩
  | cons mapping rest ih =>
      obtain ⟨above, bounds, attained⟩ := ih (max start (mapping.last + 1))
      rw [List.foldl_cons]
      refine ⟨by omega, ?_, ?_⟩
      · intro other member
        rcases List.mem_cons.mp member with rfl | later
        · omega
        · exact bounds other later
      · rcases attained with same | ⟨other, later, same⟩
        · rcases Int.le_total start (mapping.last + 1) with grows | stays
          · exact .inr ⟨mapping, List.mem_cons_self, by omega⟩
          · exact .inl (by omega)
        · exact .inr ⟨other, List.mem_cons_of_mem _ later, same⟩

/-- A bus that answers like the partial map of bytes, and the log, that its past tells of. -/
structure Refines (past : List Exchange) (bus : Bus) : Prop where
  reads : ∀ address, Accessible past address →
    Bus.read address bus = .ok (lastWritten past address)
      (bus.noting [Access.mk .read address (lastWritten past address)])
  peeks : ∀ address, Accessible past address →
    Bus.peek address bus = .ok (lastWritten past address) bus
  writes : ∀ address data, Accessible past address → 0 ≤ data ∧ data ≤ 0xFF → ∃ after,
    Bus.write address data bus = .ok () after ∧
    after.activity = bus.activity ++ [Access.mk .write address data] ∧
    ∀ other, after.answer other = if other = address then .ok data else bus.answer other
  misfits : ∀ address data, Accessible past address → ¬ (0 ≤ data ∧ data ≤ 0xFF) →
    Bus.write address data bus = .error (.misuse (.byteOutOfRange data)) bus
  unmapped : ∀ address, ¬ Accessible past address →
    let overreach := Problem.fault (.outOfBounds (.unmapped address))
    Bus.read address bus = .error overreach bus ∧ Bus.peek address bus = .error overreach bus ∧
      ∀ data, Bus.write address data bus = .error overreach bus
  refusals : ∀ (call : Call) problem after, call.perform bus = .error problem after →
    after = bus ∧ ∀ offset size, problem ≠ .fault (.outOfBounds (.cell offset size))
  drains : Bus.drain bus = .ok (sinceDrain past) { bus with activity := [] }
  blank : ranges past = [] → bus.size = 0
  size : ranges past ≠ [] → Accessible past (bus.size - 1) ∧
    ∀ address, Accessible past address → address ≤ bus.size - 1

namespace Described

variable {past : List Exchange} {bus : Bus}

theorem mapped_iff (described : Described past bus) (address : Int) :
    bus.mapped address = true ↔ Accessible past address := by
  rw [mapped, List.any_eq_true, described.mappings, Accessible]
  simp only [Mapping.covers, Bool.and_eq_true, decide_eq_true_eq]

theorem answer_storing (described : Described past bus)
    (distinct : (bus.mappings.map Mapping.device).Nodup) {address data : Int}
    (isMapped : bus.mapped address = true) (isByte : 0 ≤ data ∧ data ≤ 0xFF) (other : Int) :
    (bus.storing address (UInt8.ofNat data.toNat)).answer other =
      if other = address then .ok data else bus.answer other := by
  have fitted := described.fitted
  have mapped := mapped_congr (bus.mappings_storing address (UInt8.ofNat data.toNat))
  rw [(fitted.storing address _).answer_eq, fitted.answer_eq, mapped,
    fitted.stored_storing distinct isMapped]
  by_cases same : other = address
  · have value : ((UInt8.ofNat data.toNat).toNat : Int) = data := by
      rw [UInt8.toNat_ofNat']
      omega
    rw [if_pos same, if_pos same, same, if_pos isMapped, value]
  · rw [if_neg same, if_neg same]

theorem refines (described : Described past bus)
    (distinct : (bus.mappings.map Mapping.device).Nodup) : Refines past bus := by
  have fitted := described.fitted
  have mapped := described.mapped_iff
  constructor
  case reads =>
    intro address accessible
    rw [fitted.read_eq, if_pos ((mapped address).mpr accessible), reading, described.stored]
  case peeks =>
    intro address accessible
    rw [fitted.peek_eq, if_pos ((mapped address).mpr accessible), described.stored]
  case writes =>
    intro address data accessible isByte
    have isMapped := (mapped address).mpr accessible
    rw [fitted.write_eq, if_pos isMapped, if_pos isByte]
    refine ⟨_, rfl, ?_, ?_⟩
    · simp [noting]
    · intro other
      rw [answer_congr (devices_noting _ _) (mappings_noting _ _),
        described.answer_storing distinct isMapped isByte]
  case misfits =>
    intro address data accessible misfit
    rw [fitted.write_eq, if_pos ((mapped address).mpr accessible), if_neg misfit]
  case unmapped =>
    intro address inaccessible overreach
    have isUnmapped : ¬ bus.mapped address = true := fun isMapped =>
      inaccessible ((mapped address).mp isMapped)
    refine ⟨?_, ?_, ?_⟩
    · rw [fitted.read_eq, if_neg isUnmapped]
    · rw [fitted.peek_eq, if_neg isUnmapped]
    · intro data
      rw [fitted.write_eq, if_neg isUnmapped]
  case refusals =>
    intro call problem after failed
    have answered := fitted.answered call
    rw [failed] at answered
    cases answered with
    | refused _ other => exact ⟨rfl, other⟩
  case drains => rw [← described.activity]; rfl
  case blank =>
    intro none
    rw [Bus.size, described.mappings, none]
    rfl
  case size =>
    intro some
    obtain ⟨_, bounds, attained⟩ := foldl_max_last bus.mappings 0
    rw [← Bus.size] at bounds attained
    rw [← described.mappings] at some
    constructor
    · rcases attained with zero | ⟨mapping, member, last⟩
      · obtain ⟨mapping, member⟩ := List.exists_mem_of_ne_nil _ some
        have order := described.ordered mapping member
        have bound := bounds mapping member
        omega
      · have order := described.ordered mapping member
        exact ⟨mapping, described.mappings ▸ member, by omega, by omega⟩
    · rintro address ⟨mapping, member, _, last⟩
      have bound := bounds mapping (described.mappings.symm ▸ member)
      omega

end Described

/-- The bus is a partial map of bytes with a log. After any calls, memories mapped or refused in any
order over ranges that may overlap, but none of them mapped twice, it answers as its past says. -/
theorem served_refines_past {past : List Exchange} {bus : Bus} (served : Served past bus)
    (distinct : ((ranges past).map Mapping.device).Nodup) : Refines past bus := by
  have described := served.described distinct
  rw [← described.mappings] at distinct
  exact described.refines distinct

/-- What calls make of a bus, and of its past. -/
def afterCalls (past : List Exchange) (bus : Bus) : List Call → List Exchange × Bus
  | [] => (past, bus)
  | call :: rest =>
      afterCalls (past ++ [Exchange.mk call (call.outcome bus)]) (call.perform.left bus) rest

theorem Served.afterCalls {past : List Exchange} {bus : Bus} (served : Served past bus)
    (calls : List Call) :
    Served (Bus.afterCalls past bus calls).1 (Bus.afterCalls past bus calls).2 := by
  induction calls generalizing past bus with
  | nil => exact served
  | cons call rest ih => exact ih (served.called call)

/-- Two memories that overlap in one address, a range that fits neither, and accesses to all of them. -/
def overlapping : List Call :=
  [.attach 4, .attach 2, .register 0 3 0, .register 3 4 1, .register 5 9 0, .write 3 7,
    .write 4 300, .write 9 1, .peek 4, .read 3]

theorem served_refines_past_overlapping :
    let past := (afterCalls [] {} overlapping).1
    let bus := (afterCalls [] {} overlapping).2
    Served past bus ∧ ((ranges past).map Mapping.device).Nodup ∧
      Bus.peek 3 bus = .ok 7 bus ∧ Bus.peek 4 bus = .ok 0 bus ∧
      Bus.write 9 1 bus = .error (.fault (.outOfBounds (.unmapped 9))) bus ∧
      Bus.drain bus = .ok [Access.mk .write 3 7, Access.mk .read 3 7] { bus with activity := [] } ∧
      bus.size = 5 := by
  intro past bus
  have served : Served past bus := Served.created.afterCalls overlapping
  have distinct : ((ranges past).map Mapping.device).Nodup := by decide
  have refines := served_refines_past served distinct
  have accessible : Accessible past 3 ∧ Accessible past 4 ∧ ¬ Accessible past 9 := by decide
  have written : lastWritten past 3 = 7 ∧ lastWritten past 4 = 0 := by decide
  have noted : sinceDrain past = [Access.mk .write 3 7, Access.mk .read 3 7] := by decide
  refine ⟨served, distinct, ?_, ?_, (refines.unmapped 9 accessible.2.2).2.2 1, ?_, ?_⟩
  · rw [refines.peeks 3 accessible.1, written.1]
  · rw [refines.peeks 4 accessible.2.1, written.2]
  · rw [refines.drains, noted]
  · decide

end Bus

end Chip8
