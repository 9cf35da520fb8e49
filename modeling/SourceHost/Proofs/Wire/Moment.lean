import SourceHost.Proofs.Wire.Reading

/-!
# Moments outside the calendar

On the wire a moment is a number of 64 bits like any other, and most of these numbers are no
moments.  Of all that can be wrong with a value this is the one thing the bytes do not show:
everything else about them may be in order.

`Shape.raw` is the shape in which moments are only numbers, so bytes are well-formed when they are
read in it, and `Shape.moments` are the numbers that stand for moments in what is read.

* `decode_of_raw` — well-formed bytes are read, unless a moment is outside the calendar; then they
  are refused for the first one that is.
* `honest_take` — nothing is ever refused for a moment that the calendar has.
-/

set_option autoImplicit false

namespace SourceHost

variable {α β ρ σ : Type}

namespace Shape

/-- The shape with a number of 64 bits in the place of every moment. -/
def raw : Shape → Shape
  | instant => signed .w64
  | option s => option s.raw
  | seq s => seq s.raw
  | map k v => map k.raw v.raw
  | pair a b => pair a.raw b.raw
  | sum n p => sum n fun i ↦ (p i).raw
  | s => s

/-- The numbers that stand for moments, in the order of the wire. -/
def moments : (s : Shape) → s.raw.Value → List Int
  | instant, i => [Signed.val i]
  | option s, v => Option.elim v [] s.moments
  | seq s, vs => List.flatMap s.moments vs
  | map k v, entries => List.flatMap (fun e ↦ k.moments e.1 ++ v.moments e.2) entries
  | pair a b, v => a.moments v.1 ++ b.moments v.2
  | sum _ p, v => (p v.1).moments v.2
  | _, _ => []

end Shape

/-- The first number that is no moment of the calendar. -/
def firstStray (seconds : List Int) : Option Int :=
  seconds.find? fun n ↦ (Instant.ofSeconds n).isNone

theorem firstStray_append (l l' : List Int) :
    firstStray (l ++ l') = (firstStray l).or (firstStray l') :=
  List.find?_append

/-! ## Readers that refuse strays -/

/-- What comes of reading a value that leaves `rest`: the value, unless it has a stray. -/
def Heeds (x : Except WireError (α × Bytes)) (rest : Bytes) : Option Int → Prop
  | none => ∃ v, x = .ok (v, rest)
  | some n => x = .error (.timestampOutOfRange n)

theorem Heeds.bind {x : Except WireError (α × Bytes)} {f : α × Bytes → Except WireError (β × Bytes)}
    {rest rest' : Bytes} {stray stray' : Option Int} (hx : Heeds x rest stray)
    (hf : ∀ v, Heeds (f (v, rest)) rest' stray') : Heeds (x >>= f) rest' (stray.or stray') := by
  cases stray with
  | some n =>
    rw [show x = .error (.timestampOutOfRange n) from hx]
    rfl
  | none =>
    obtain ⟨v, rfl⟩ := hx
    exact hf v

/-- `read` takes what `raw` takes, but refuses it for the first stray. -/
def HeedsStrays (read : Bytes → Except WireError (α × Bytes))
    (raw : Bytes → Except WireError (ρ × Bytes)) (moments : ρ → List Int) : Prop :=
  ∀ b r rest, raw b = .ok (r, rest) → Heeds (read b) rest (firstStray (moments r))

section HeedsStrays

variable {read : Bytes → Except WireError (α × Bytes)} {raw : Bytes → Except WireError (ρ × Bytes)}
  {moments : ρ → List Int} {read' : Bytes → Except WireError (β × Bytes)}
  {raw' : Bytes → Except WireError (σ × Bytes)} {moments' : σ → List Int}

theorem HeedsStrays.refl : HeedsStrays read read fun _ ↦ [] :=
  fun _ v _ h ↦ ⟨v, h⟩

theorem HeedsStrays.both (h : HeedsStrays read raw moments)
    (h' : HeedsStrays read' raw' moments') :
    HeedsStrays
      (fun b ↦ do
        let (x, rest) ← read b
        let (y, rest) ← read' rest
        return ((x, y), rest))
      (fun b ↦ do
        let (x, rest) ← raw b
        let (y, rest) ← raw' rest
        return ((x, y), rest))
      fun r ↦ moments r.1 ++ moments' r.2 := by
  rintro b ⟨r, r'⟩ rest hraw
  obtain ⟨x, behind, hx, hraw⟩ := bind_eq_ok_iff.1 hraw
  obtain ⟨y, rest', hy, heq⟩ := bind_eq_ok_iff.1 hraw
  cases heq
  rw [firstStray_append]
  refine (h _ _ _ hx).bind fun v ↦ ?_
  rw [← Option.or_none (o := firstStray (moments' r'))]
  exact (h' _ _ _ hy).bind fun v' ↦ ⟨(v, v'), rfl⟩

theorem HeedsStrays.each (h : HeedsStrays read raw moments) {count : Nat} (found : List α)
    {foundRaw rs : List ρ} {b rest : Bytes}
    (hraw : takeEach raw count foundRaw b = .ok (rs, rest)) :
    ∃ rs', rs = foundRaw.reverse ++ rs' ∧
      Heeds (takeEach read count found b) rest (firstStray (rs'.flatMap moments)) := by
  induction count generalizing b found foundRaw with
  | zero =>
    cases hraw
    exact ⟨[], (List.append_nil _).symm, found.reverse, rfl⟩
  | succ count ih =>
    rw [takeEach_succ, bind_eq_ok_iff] at hraw
    obtain ⟨r, behind, hr, hlater⟩ := hraw
    obtain ⟨rs', rfl, -⟩ := ih [] hlater
    refine ⟨r :: rs', by simp, ?_⟩
    rw [takeEach_succ, List.flatMap_cons, firstStray_append]
    refine (h _ _ _ hr).bind fun v ↦ ?_
    obtain ⟨rs'', heq, hheeds⟩ := ih (v :: found) hlater
    obtain rfl := List.append_cancel_left heq
    exact hheeds

theorem HeedsStrays.many (h : HeedsStrays read raw moments) :
    HeedsStrays
      (fun b ↦ do
        let (count, rest) ← b.takeCount
        takeEach read count [] rest)
      (fun b ↦ do
        let (count, rest) ← b.takeCount
        takeEach raw count [] rest)
      fun rs ↦ rs.flatMap moments := by
  intro b rs rest hraw
  obtain ⟨count, behind, hcount, hraw⟩ := bind_eq_ok_iff.1 hraw
  obtain ⟨rs', rfl, hheeds⟩ := h.each [] hraw
  dsimp only
  rw [hcount]
  exact hheeds

end HeedsStrays

namespace Shape

theorem heedsStrays_instant : HeedsStrays instant.take instant.raw.take instant.moments := by
  intro b i rest h
  obtain ⟨n, behind, hn, heq⟩ := bind_eq_ok_iff.1 h
  cases heq
  have hn : Varint.decode 64 b = .ok (n, rest) := hn
  have hmoments : instant.moments (Varint.unzigzagWide Width.w64.bits_pos n) =
      [Varint.unzigzag n.val] := rfl
  rw [take, hn, hmoments, firstStray, List.find?_singleton]
  cases ht : Instant.ofSeconds (Varint.unzigzag n.val) with
  | none => simp [bind, Except.bind, ht, Heeds]
  | some t => simp [bind, Except.bind, pure, Except.pure, ht, Heeds]

theorem heedsStrays_option {s : Shape} (h : HeedsStrays s.take s.raw.take s.moments) :
    HeedsStrays (option s).take (option s).raw.take (option s).moments := by
  intro b r rest hraw
  obtain ⟨a, behind, ha, hraw⟩ := bind_eq_ok_iff.1 hraw
  rw [take, ha]
  simp only [bind, Except.bind] at hraw ⊢
  split at hraw
  · rename_i hzero
    cases hraw
    rw [if_pos hzero]
    exact ⟨none, rfl⟩
  · rename_i hzero
    obtain ⟨r', rest', hr, heq⟩ := bind_eq_ok_iff.1 hraw
    cases heq
    rw [if_neg hzero, ← Option.or_none (o := firstStray _)]
    exact (h _ _ _ hr).bind fun v ↦ ⟨some v, rfl⟩

theorem heedsStrays_sum {n : Nat} {p : Fin n → Shape}
    (h : ∀ i, HeedsStrays (p i).take (p i).raw.take (p i).moments) :
    HeedsStrays (sum n p).take (sum n p).raw.take (sum n p).moments := by
  intro b r rest hraw
  obtain ⟨a, behind, ha, hraw⟩ := bind_eq_ok_iff.1 hraw
  rw [take, ha]
  simp only [bind, Except.bind] at hraw ⊢
  split at hraw
  · rename_i hlt
    obtain ⟨r', rest', hr, heq⟩ := bind_eq_ok_iff.1 hraw
    cases heq
    rw [dif_pos hlt, ← Option.or_none (o := firstStray _)]
    exact (h _ _ _ _ hr).bind fun v ↦ ⟨⟨⟨a.toNat, hlt⟩, v⟩, rfl⟩
  · cases hraw

/-- **Well-formed bytes are taken, unless a moment is outside the calendar.** -/
theorem heedsStrays_take (s : Shape) : HeedsStrays s.take s.raw.take s.moments := by
  induction s with
  | instant => exact heedsStrays_instant
  | option s ih => exact heedsStrays_option ih
  | seq s ih => exact ih.many
  -- a map is read as the list of its entries
  | map k t ihk iht => exact (ihk.both iht).many
  | pair a b iha ihb => exact iha.both ihb
  | sum n p ih => exact heedsStrays_sum ih
  | _ => exact .refl

/-- Well-formed bytes are all of a value, unless a moment is outside the calendar, and then they are
refused for the first that is. -/
theorem decode_of_raw {s : Shape} {b : Bytes} {r : s.raw.Value} (h : s.raw.decode b = .ok r)
    (e : WireError) :
    s.decode b = .error e ↔
      ∃ n, firstStray (s.moments r) = some n ∧ e = .timestampOutOfRange n := by
  have hheeds := s.heedsStrays_take _ _ _ (decode_eq_ok_iff_take.1 h)
  cases hstray : firstStray (s.moments r) with
  | some n =>
    rw [hstray] at hheeds
    rw [decode_of_take_eq_error hheeds]
    simp [eq_comm]
  | none =>
    rw [hstray] at hheeds
    obtain ⟨v, hv⟩ := hheeds
    rw [decode_eq_ok_iff_take.2 hv]
    simp

end Shape

/-! ## Nothing else is refused for a moment -/

/-- If this is a refusal for a moment, the calendar does not have the moment. -/
def Honest (x : Except WireError α) : Prop :=
  ∀ n, x = .error (.timestampOutOfRange n) → Instant.ofSeconds n = none

theorem Honest.ok (a : α) : Honest (.ok a) := nofun

theorem Honest.bind {x : Except WireError α} {f : α → Except WireError β} (hx : Honest x)
    (hf : ∀ a, Honest (f a)) : Honest (x >>= f) := by
  cases x with
  | error e =>
    intro n h
    cases h
    exact hx n rfl
  | ok a => exact hf a

theorem honest_takeByte (b : Bytes) : Honest b.takeByte := by
  cases b <;> exact nofun

theorem honest_number (bits : Nat) (b : Bytes) : Honest (Varint.decode bits b) := by
  have hfrom : ∀ room b, Honest (Varint.decodeFrom bits room b) := by
    intro room b
    fun_induction Varint.decodeFrom bits room b with
    | case4 room a rest hroom hlow ha e he ih =>
      intro n h
      cases h
      exact ih n he
    | case1 | case2 | case3 | case5 | case6 => exact nofun
  exact hfrom bits b

theorem honest_takeCounted (b : Bytes) : Honest b.takeCounted := by
  refine (honest_number 64 b).bind fun p ↦ ?_
  dsimp only
  split <;> exact nofun

theorem honest_takeText (b : Bytes) : Honest b.takeText := by
  refine (honest_takeCounted b).bind fun p ↦ ?_
  dsimp only
  split <;> exact nofun

theorem honest_takeLittleEndian (count bits : Nat) (b : Bytes) :
    Honest (b.takeLittleEndian count bits) := by
  refine Honest.bind ?_ fun p ↦ .ok _
  rw [Bytes.takeExactly]
  split
  · intro n h
    cases h
  · exact .ok _

theorem honest_many {read : Bytes → Except WireError (α × Bytes)} (h : ∀ b, Honest (read b))
    (b : Bytes) :
    Honest (do
      let (count, rest) ← b.takeCount
      takeEach read count [] rest) := by
  have heach : ∀ count found b, Honest (takeEach read count found b) := by
    intro count
    induction count with
    | zero => exact fun _ _ ↦ .ok _
    | succ count ih =>
      intro found b
      rw [takeEach_succ]
      exact (h b).bind fun p ↦ ih _ _
  have hcount : Honest b.takeCount := by
    refine (honest_number 64 b).bind fun p ↦ ?_
    dsimp only
    split <;> exact nofun
  exact hcount.bind fun p ↦ heach _ _ _

namespace Shape

theorem honest_take (s : Shape) (b : Bytes) : Honest (s.take b) := by
  induction s generalizing b with
  | bool | i8 => exact (honest_takeByte b).bind fun _ ↦ .ok _
  | u8 => exact honest_takeByte b
  | unsigned width => exact honest_number width.bits b
  | signed width => exact (honest_number width.bits b).bind fun _ ↦ .ok _
  | f32 => exact honest_takeLittleEndian 4 32 b
  | f64 => exact honest_takeLittleEndian 8 64 b
  | char =>
    refine (honest_takeText b).bind fun p ↦ ?_
    dsimp only
    split <;> exact nofun
  | text => exact honest_takeText b
  | bytes => exact honest_takeCounted b
  | unit => exact .ok _
  | option s ih =>
    refine (honest_takeByte b).bind fun p ↦ ?_
    dsimp only
    split
    · exact .ok _
    · exact (ih _).bind fun _ ↦ .ok _
  | seq s ih => exact honest_many ih b
  | map k t ihk iht =>
    exact honest_many (fun b ↦ (ihk b).bind fun _ ↦ (iht _).bind fun _ ↦ .ok _) b
  | pair s t ihs iht => exact (ihs b).bind fun _ ↦ (iht _).bind fun _ ↦ .ok _
  | sum n p ih =>
    refine (honest_takeByte b).bind fun q ↦ ?_
    dsimp only
    split
    · exact (ih _ _).bind fun _ ↦ .ok _
    · exact nofun
  | instant =>
    refine (honest_number 64 b).bind fun p ↦ ?_
    dsimp only
    split
    · exact nofun
    · rename_i hnone
      intro n h
      cases h
      exact hnone
  | unsupported what => exact nofun

/-- No value is refused for a moment that the calendar has. -/
theorem honest_decode (s : Shape) (b : Bytes) : Honest (s.decode b) := by
  refine (s.honest_take b).bind fun p ↦ ?_
  dsimp only
  split <;> exact nofun

end Shape

end SourceHost
