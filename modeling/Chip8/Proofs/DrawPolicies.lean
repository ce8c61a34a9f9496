import Chip8.Proofs.Dependence
import Chip8.Proofs.Sprites

/-!
The two draw policies side by side. Of the points that a wrapped sprite covers, a clipped one covers those
to the right of its origin and below it. So clipping leaves that part of the picture as wrapping does and
the rest of it as it was, and where nothing reaches past an edge the policies make no difference.
-/

namespace Chip8

namespace Bus

theorem length_block {bus : Bus} {address : Int} {count : Nat} {accesses : List Access}
    {data : List Int} (read : bus.block address count = (accesses, .ok data)) : data.length = count := by
  induction count generalizing address accesses data with
  | zero =>
      cases read
      rfl
  | succ count ih =>
      obtain ⟨byte, more, rest, _, following, rfl⟩ := block_succ read
      rw [List.length_cons, ih following]

end Bus

section Points

variable {x y column row : Nat} {rows : List UInt8} {point : Point}

theorem hits_clip_iff (narrow : column < 8) (low : row < 32) :
    DrawPolicy.clip.Hits x y column row point ↔
      DrawPolicy.wrap.Hits x y column row point ∧ x % 64 ≤ point.x ∧ y % 32 ≤ point.y := by
  simp only [DrawPolicy.Hits]
  omega

theorem mem_spritePoints_clip (few : rows.length ≤ 32) :
    point ∈ spritePoints .clip x y rows ↔
      point ∈ spritePoints .wrap x y rows ∧ x % 64 ≤ point.x ∧ y % 32 ≤ point.y := by
  rw [mem_spritePoints, mem_spritePoints]
  constructor
  · rintro ⟨row, bits, present, column, narrow, set, hits⟩
    obtain ⟨low, _⟩ := List.getElem?_eq_some_iff.mp present
    obtain ⟨wraps, behind⟩ := (hits_clip_iff narrow (by omega)).mp hits
    exact ⟨⟨row, bits, present, column, narrow, set, wraps⟩, behind⟩
  · rintro ⟨⟨row, bits, present, column, narrow, set, wraps⟩, behind⟩
    obtain ⟨low, _⟩ := List.getElem?_eq_some_iff.mp present
    exact ⟨row, bits, present, column, narrow, set, (hits_clip_iff narrow (by omega)).mpr ⟨wraps, behind⟩⟩

theorem place_clip (right : x % 64 + column < 64) (below : y % 32 + row < 32) :
    DrawPolicy.clip.place x y column row = DrawPolicy.wrap.place x y column row := by
  refine DrawPolicy.place_eq_some_iff.mpr ?_
  simp only [DrawPolicy.Hits, Fin.val_ofNat]
  omega

/-- A sprite that stays within the edges is placed alike by both policies. -/
theorem spritePoints_clip (right : x % 64 + 8 ≤ 64) (below : y % 32 + rows.length ≤ 32) :
    spritePoints .clip x y rows = spritePoints .wrap x y rows := by
  refine List.flatMap_congr ?_
  rintro ⟨bits, row⟩ member
  have low := List.snd_lt_add_of_mem_zipIdx member
  refine List.filterMap_congr ?_
  intro column narrow
  have inside := List.mem_range.mp narrow
  rw [place_clip (by omega) (by omega)]

namespace Display

theorem lit_clip_kept (few : rows.length ≤ 32) (display : Display) (right : x % 64 ≤ point.x)
    (below : y % 32 ≤ point.y) :
    (display.flipAll (spritePoints .clip x y rows)).1.lit point =
      (display.flipAll (spritePoints .wrap x y rows)).1.lit point := by
  rw [lit_flipAll_of_nodup (nodup_spritePoints few), lit_flipAll_of_nodup (nodup_spritePoints few)]
  simp only [mem_spritePoints_clip few, right, below, and_true]

theorem lit_clip_cut (few : rows.length ≤ 32) (display : Display)
    (outside : ¬ (x % 64 ≤ point.x ∧ y % 32 ≤ point.y)) :
    (display.flipAll (spritePoints .clip x y rows)).1.lit point = display.lit point := by
  rw [lit_flipAll_of_nodup (nodup_spritePoints few), if_neg]
  intro covered
  exact outside ((mem_spritePoints_clip few).mp covered).2

theorem collides_clip (few : rows.length ≤ 32) (display : Display)
    (collided : (display.flipAll (spritePoints .clip x y rows)).2 = true) :
    (display.flipAll (spritePoints .wrap x y rows)).2 = true := by
  obtain ⟨point, covered, lit⟩ := (flipAll_collides (nodup_spritePoints few) display).mp collided
  refine (flipAll_collides (nodup_spritePoints few) display).mpr ⟨point, ?_, lit⟩
  exact ((mem_spritePoints_clip few).mp covered).1

end Display

end Points

namespace State

/-- What clipping makes of a sprite drawn at (x, y), by comparison with wrapping. -/
structure Clips (before : State) (x y height : Nat) (clipped wrapped : State) : Prop where
  kept : ∀ point : Point, x % 64 ≤ point.x → y % 32 ≤ point.y →
    clipped.display.lit point = wrapped.display.lit point
  cut : ∀ point : Point, ¬ (x % 64 ≤ point.x ∧ y % 32 ≤ point.y) →
    clipped.display.lit point = before.display.lit point
  flag : clipped.value Register.flag ≤ wrapped.value Register.flag
  registers : ∀ register, register ≠ Register.flag → clipped.value register = wrapped.value register
  rest : clipped = { wrapped with v := clipped.v, display := clipped.display }
  whole : x % 64 + 8 ≤ 64 → y % 32 + height ≤ 32 → clipped = wrapped

theorem drawn_clips (state : State) (x y : Register) {sprite : List Int} (few : sprite.length ≤ 32) :
    state.Clips (state.value x).toNat (state.value y).toNat sprite.length
      (state.drawn .clip x y sprite) (state.drawn .wrap x y sprite) := by
  have fewRows : (sprite.map fun data => UInt8.ofNat (data % 256).toNat).length ≤ 32 := by
    rwa [List.length_map]
  constructor
  case kept =>
    intro point right below
    exact Display.lit_clip_kept fewRows state.display right below
  case cut =>
    intro point outside
    exact Display.lit_clip_cut fewRows state.display outside
  case flag =>
    have collides := @Display.collides_clip (state.value x).toNat (state.value y).toNat _ fewRows
      state.display
    rw [drawn, drawn, value_withValue, value_withValue, if_pos rfl, if_pos rfl]
    split
    next collided =>
      rw [if_pos (collides collided)]
      exact UInt8.le_refl 1
    next missed => exact UInt8.le_iff_toNat_le.mpr (Nat.zero_le _)
  case registers =>
    intro register other
    rw [drawn, drawn, value_withValue, value_withValue, if_neg other, if_neg other]
    rfl
  case rest => rfl
  case whole =>
    intro right below
    rw [drawn, drawn, spritePoints_clip right (by rwa [List.length_map])]

end State

namespace Machine

def under (policy : DrawPolicy) (machine : Machine) : Machine := { machine with drawPolicy := policy }

/-- A word that is run once under each policy. -/
inductive UnderPolicies (machine : Machine) (word : Int) : Prop
  | faults (cause : Fault) (reads : List Access) :
      execute word (machine.under .clip) =
        .error (.fault cause) (under .clip { machine with bus := machine.bus.noting reads }) →
      execute word (machine.under .wrap) =
        .error (.fault cause) (under .wrap { machine with bus := machine.bus.noting reads }) →
      UnderPolicies machine word
  | completes (operation : Operation) (reads : List Access) (bytes : Nat) (clipped wrapped : State) :
      execute word (machine.under .clip) =
        .ok operation ((machine.under .clip).passing clipped reads bytes) →
      execute word (machine.under .wrap) =
        .ok operation ((machine.under .wrap).passing wrapped reads bytes) →
      (¬ (0xD000 ≤ word ∧ word ≤ 0xDFFF) → clipped = wrapped) →
      (∀ (x y : Register) (rows : Fin 16), word = 0xD000 + 0x100 * x.val + 0x10 * y.val + rows.val →
        machine.state.Clips (machine.state.value x).toNat (machine.state.value y).toNat rows.val
          clipped wrapped) →
      UnderPolicies machine word

variable {machine : Machine} {word : Int}

theorem execute_draw_under (policy : DrawPolicy) {x y : Register} {rows : Fin 16}
    (encodes : (Instruction.draw x y rows).Encodes word) :
    execute word (machine.under policy) =
      match machine.bus.block machine.state.i.toNat rows.val with
      | (accesses, .ok sprite) =>
          .ok (Operation.ofInstruction word (.draw x y rows))
            ((machine.under policy).passing (machine.state.drawn policy x y sprite) accesses 0)
      | (accesses, .error problem) =>
          .error problem (under policy { machine with bus := machine.bus.noting accesses }) := by
  have sameBlock : (machine.under policy).bus.block (machine.under policy).state.i.toNat rows.val =
      machine.bus.block machine.state.i.toNat rows.val := rfl
  rw [execute_encodes encodes, Instruction.execute_draw, sameBlock]
  rcases machine.bus.block machine.state.i.toNat rows.val with ⟨accesses, problem | sprite⟩ <;> rfl

theorem draw_underPolicies {x y : Register} {rows : Fin 16}
    (encodes : (Instruction.draw x y rows).Encodes word) : machine.UnderPolicies word := by
  have clips := @execute_draw_under machine word .clip x y rows encodes
  have wraps := @execute_draw_under machine word .wrap x y rows encodes
  rcases read : machine.bus.block machine.state.i.toNat rows.val with ⟨accesses, problem | sprite⟩
  · obtain ⟨overreach, rfl⟩ := Bus.block_error (congrArg Prod.snd read)
    rw [read] at clips wraps
    exact .faults _ accesses clips wraps
  · have length := Bus.length_block read
    rw [read] at clips wraps
    refine .completes _ accesses 0 _ _ clips wraps ?_ ?_
    · intro noDraw
      simp only [Instruction.Encodes] at encodes
      omega
    · intro x' y' rows' spelled
      have encodes' : (Instruction.draw x' y' rows').Encodes word := spelled
      have same := (Instruction.ofWord?_of_encodes encodes').symm.trans
        (Instruction.ofWord?_of_encodes encodes)
      cases same
      rw [← length]
      exact machine.state.drawn_clips x y (by omega)

theorem quiet_underPolicies {instruction : Instruction} (encodes : instruction.Encodes word)
    (noDraw : ∀ x y rows, instruction ≠ .draw x y rows) : machine.UnderPolicies word := by
  have seen : SeenAlike (machine.under .clip) (machine.under .wrap) (some instruction) := by
    constructor
    case state => rfl
    case answers => rfl
    case byte => exact fun _ _ _ => rfl
    case drawPolicy => exact fun x y rows drawn => absurd (Option.some.inj drawn) (noDraw x y rows)
  have alike := Instruction.execute_alike seen
  have clips := execute_encodes encodes (machine.under .clip)
  have wraps := execute_encodes encodes (machine.under .wrap)
  generalize instruction.execute (machine.under .clip) = result at alike clips
  generalize instruction.execute (machine.under .wrap) = result' at alike wraps
  cases alike with
  | completes state accesses =>
      refine .completes _ accesses instruction.bytes state state clips wraps (fun _ => rfl) ?_
      intro x y rows spelled
      have encodes' : (Instruction.draw x y rows).Encodes word := spelled
      have same := (Instruction.ofWord?_of_encodes encodes).symm.trans
        (Instruction.ofWord?_of_encodes encodes')
      exact absurd (Option.some.inj same) (noDraw x y rows)
  | faults cause accesses => exact .faults cause accesses clips wraps

/-- The draw policy makes a difference to the words that draw and to no others, and there only to the
picture and to VF. Faults and reads are the same under both policies. -/
theorem clip_cuts_wrap (machine : Machine) {word : Int} (sixteenBits : 0 ≤ word ∧ word ≤ 0xFFFF) :
    machine.UnderPolicies word := by
  cases known : Instruction.ofWord? word with
  | none =>
      have refused (policy : DrawPolicy) : execute word (machine.under policy) =
          .error (.fault (.unsupportedOpcode word))
            (under policy { machine with bus := machine.bus.noting [] }) := by
        rw [execute_apply, Operation.decode_apply, if_pos sixteenBits, known, Bus.noting_nil]
      exact .faults _ [] (refused .clip) (refused .wrap)
  | some instruction =>
      have encodes := Instruction.encodes_of_ofWord? sixteenBits.1 sixteenBits.2 known
      cases instruction with
      | draw x y rows => exact draw_underPolicies encodes
      | _ => exact quiet_underPolicies encodes (by simp)

theorem clip_cuts_wrap_around_corner :
    ∃ operation reads bytes clipped wrapped,
      execute 0xDF02 (cornered.under .clip) =
        .ok operation ((cornered.under .clip).passing clipped reads bytes) ∧
      execute 0xDF02 (cornered.under .wrap) =
        .ok operation ((cornered.under .wrap).passing wrapped reads bytes) ∧
      clipped.display.lit ⟨62, 31⟩ = wrapped.display.lit ⟨62, 31⟩ ∧
      clipped.display.lit ⟨1, 31⟩ = true ∧
      clipped.value Register.flag ≤ wrapped.value Register.flag := by
  have succeeds : (match execute 0xDF02 (cornered.under .clip) with
      | .ok .. => true
      | .error .. => false) = true := by decide +kernel
  have coordinates : (cornered.state.value Register.flag).toNat = 62 ∧
      (cornered.state.value Register.offset).toNat = 31 := by decide
  have lit : cornered.state.display.lit ⟨1, 31⟩ = true := by decide +kernel
  cases @clip_cuts_wrap cornered 0xDF02 (by decide) with
  | faults cause reads clips =>
      rw [clips] at succeeds
      cases succeeds
  | completes operation reads bytes clipped wrapped clips wraps _ drawn =>
      have cuts := drawn Register.flag Register.offset 2 rfl
      rw [coordinates.1, coordinates.2] at cuts
      refine ⟨operation, reads, bytes, clipped, wrapped, clips, wraps, ?_, ?_, cuts.flag⟩
      · exact cuts.kept ⟨62, 31⟩ (by decide) (by decide)
      · rw [cuts.cut ⟨1, 31⟩ (by decide), lit]

end Machine

end Chip8
