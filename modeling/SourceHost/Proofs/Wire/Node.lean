import SourceHost.Wire.Decode
import SourceHost.Wire.Encode

/-!
# The nodes of a value

What the laws of the wire format say about a value is seldom about all of it.  It is about the
lists in it and how long they are, about the variants in it and whether their indices fit in a
byte, about the places for which there is no form.  `Shape.nodes` lists these *nodes* in the order
in which they are written, and everything a law asks of a value is asked of this list.

* `encode_eq_error_iff` — writing fails with the fault of the first node that has one, and
  `exists_encode_iff` — it succeeds when no node has.
-/

set_option autoImplicit false

namespace SourceHost

/-- A place in a value that the laws of the format speak of. -/
inductive Node where
  /-- A character, a text or a string of bytes, with the number of its bytes. -/
  | content (length : Nat)
  /-- A list or a map: whether its items take no bytes, and how many there are. -/
  | collection (hollow : Bool) (count : Nat)
  /-- A variant, by its index. -/
  | variant (index : Nat)
  /-- A place for which there is no form. -/
  | unsupported (what : Unsupported)
deriving DecidableEq

namespace Node

/-- Why the node cannot be written. -/
def fault : Node → Option WireError
  | variant index => if index < 256 then none else some (.invalidDiscriminant index)
  | unsupported what => some (.unsupported what)
  | _ => none

/-- The length that is written in front of the node fits in its 64 bits. -/
def IsSized : Node → Prop
  | content length => length < capacity 64
  | collection _ count => count < capacity 64
  | _ => True

/-- A collection whose items take no bytes has no more of them than are accepted on trust. -/
def IsBacked : Node → Prop
  | collection true count => count ≤ maxUnbackedCount
  | _ => True

/-- With `limit` bytes in reach, the length or count of the node can be read. -/
def Fits (limit : Nat) : Node → Prop
  | content length => length < capacity 64
  | collection _ count => count < capacity 64 ∧ count ≤ max maxUnbackedCount limit
  | _ => True

/-- How many items that take bytes the node holds. -/
def solidItems : Node → Nat
  | collection false count => count
  | _ => 0

/-- The node is a collection whose items take no bytes. -/
def isHollow : Node → Bool
  | collection true _ => true
  | _ => false

instance : DecidablePred IsSized
  | content length => inferInstanceAs (Decidable (length < capacity 64))
  | collection _ count => inferInstanceAs (Decidable (count < capacity 64))
  | variant _ | unsupported _ => inferInstanceAs (Decidable True)

instance : DecidablePred IsBacked
  | collection true count => inferInstanceAs (Decidable (count ≤ maxUnbackedCount))
  | collection false _ | content _ | variant _ | unsupported _ => inferInstanceAs (Decidable True)

theorem Fits.isSized {limit : Nat} {node : Node} (h : node.Fits limit) : node.IsSized := by
  cases node with
  | content length => exact h
  | collection hollow count => exact h.1
  | variant _ | unsupported _ => trivial

theorem Fits.of_le {limit limit' : Nat} {node : Node} (h : node.Fits limit)
    (hle : limit ≤ limit') : node.Fits limit' := by
  cases node with
  | content length => exact h
  | collection hollow count => exact ⟨h.1, Nat.le_trans h.2 (by omega)⟩
  | variant _ | unsupported _ => trivial

end Node

/-- The nodes of a value, in the order in which they are written. -/
def Shape.nodes : (s : Shape) → s.Value → List Node
  | .char, c => [.content (String.utf8EncodeChar c).length]
  | .text, t => [.content (Utf8.encode t).length]
  | .bytes, b => [.content b.length]
  | .option _, none => []
  | .option s, some v => s.nodes v
  | .seq s, vs => .collection s.isZeroWidth vs.length :: vs.flatMap s.nodes
  | .map k v, entries =>
    .collection (k.isZeroWidth && v.isZeroWidth) entries.length ::
      entries.flatMap fun e ↦ k.nodes e.1 ++ v.nodes e.2
  | .pair a b, v => a.nodes v.1 ++ b.nodes v.2
  | .sum _ p, ⟨i, v⟩ => .variant i.val :: (p i).nodes v
  | .unsupported what, () => [.unsupported what]
  | .bool, _ | .u8, _ | .i8, _ | .unsigned _, _ | .signed _, _ | .f32, _ | .f64, _ | .unit, _
  | .instant, _ => []

namespace Shape

variable {Q : Node → Prop}

theorem forall_nodes_seq {s : Shape} {vs : List s.Value} :
    (∀ node ∈ (seq s).nodes vs, Q node) ↔
      Q (.collection s.isZeroWidth vs.length) ∧ ∀ v ∈ vs, ∀ node ∈ s.nodes v, Q node := by
  rw [nodes, List.forall_mem_cons, List.forall_mem_flatMap]

theorem forall_nodes_pair {a b : Shape} {v : a.Value × b.Value} :
    (∀ node ∈ (pair a b).nodes v, Q node) ↔
      (∀ node ∈ a.nodes v.1, Q node) ∧ ∀ node ∈ b.nodes v.2, Q node := by
  rw [nodes, List.forall_mem_append]

theorem forall_nodes_sum {n : Nat} {p : Fin n → Shape} {i : Fin n} {v : (p i).Value} :
    (∀ node ∈ (sum n p).nodes ⟨i, v⟩, Q node) ↔
      Q (.variant i.val) ∧ ∀ node ∈ (p i).nodes v, Q node := by
  rw [nodes, List.forall_mem_cons]

/-- The first fault in a value, in the order of writing. -/
def firstFault (s : Shape) (v : s.Value) : Option WireError := (s.nodes v).findSome? Node.fault

/-- Every length in the value fits in its 64 bits, as the length of anything kept in memory does.
A list as such can be longer. -/
def IsSized (s : Shape) (v : s.Value) : Prop := ∀ node ∈ s.nodes v, node.IsSized

/-- No collection in the value has more than `maxUnbackedCount` items that take no bytes. -/
def IsBacked (s : Shape) (v : s.Value) : Prop := ∀ node ∈ s.nodes v, node.IsBacked

instance (s : Shape) (v : s.Value) : Decidable (s.IsSized v) :=
  inferInstanceAs (Decidable (∀ node ∈ s.nodes v, node.IsSized))

instance (s : Shape) (v : s.Value) : Decidable (s.IsBacked v) :=
  inferInstanceAs (Decidable (∀ node ∈ s.nodes v, node.IsBacked))

/-- No list or map of the shape has items that take no bytes. -/
def IsSolid : Shape → Prop
  | option s => s.IsSolid
  | seq s => s.isZeroWidth = false ∧ s.IsSolid
  | map k v => (k.isZeroWidth && v.isZeroWidth) = false ∧ k.IsSolid ∧ v.IsSolid
  | pair a b => a.IsSolid ∧ b.IsSolid
  | sum _ p => ∀ i, (p i).IsSolid
  | _ => True

theorem IsSolid.isBacked {s : Shape} (h : s.IsSolid) (v : s.Value) : s.IsBacked v := by
  have hseq : ∀ s : Shape, s.isZeroWidth = false → (∀ v, s.IsBacked v) →
      ∀ vs, (seq s).IsBacked vs := by
    intro s hs hitem vs
    refine forall_nodes_seq.2 ⟨?_, fun v _ ↦ hitem v⟩
    rw [hs]
    trivial
  induction s with
  | option s ih =>
    cases v with
    | none => exact List.forall_mem_nil _
    | some v => exact ih h v
  | seq s ih => exact hseq s h.1 (ih h.2) v
  | map k t ihk iht =>
    exact hseq (pair k t) h.1 (fun e ↦ forall_nodes_pair.2 ⟨ihk h.2.1 e.1, iht h.2.2 e.2⟩) v
  | pair a b iha ihb => exact forall_nodes_pair.2 ⟨iha h.1 v.1, ihb h.2 v.2⟩
  | sum n p ih => exact forall_nodes_sum.2 ⟨trivial, ih v.1 (h v.1) v.2⟩
  | _ => simp [IsBacked, nodes, Node.IsBacked]

end Shape

/-! ## What cannot be written -/

/-- The fault with which something failed, if it did. -/
def faultOf {α : Type} : Except WireError α → Option WireError
  | .ok _ => none
  | .error e => some e

theorem faultOf_eq_some_iff {α : Type} {x : Except WireError α} {e : WireError} :
    faultOf x = some e ↔ x = .error e := by
  cases x <;> simp [faultOf]

theorem faultOf_eq_none_iff {α : Type} {x : Except WireError α} :
    faultOf x = none ↔ ∃ a, x = .ok a := by
  cases x <;> simp [faultOf]

/-- Of two things written in turn, the first that fails decides. -/
theorem faultOf_append (x y : Except WireError Bytes) :
    faultOf (do let front ← x; let back ← y; return front ++ back) =
      (faultOf x).or (faultOf y) := by
  cases x <;> cases y <;> rfl

/-- What is put in front without failing does not count. -/
theorem faultOf_prepend (front : Bytes) (x : Except WireError Bytes) :
    faultOf (do let back ← x; return front ++ back) = faultOf x := by
  cases x <;> rfl

theorem faultOf_encodeIndex (index : Nat) :
    faultOf (encodeIndex index) = (Node.variant index).fault := by
  rw [encodeIndex, Node.fault]
  split <;> rfl

theorem faultOf_encodeEach {α : Type} {write : α → Except WireError Bytes} {nodes : α → List Node}
    (h : ∀ a, faultOf (write a) = (nodes a).findSome? Node.fault) (as : List α) :
    faultOf (encodeEach write as) = (as.flatMap nodes).findSome? Node.fault := by
  induction as with
  | nil => rfl
  | cons a as ih =>
    rw [encodeEach, faultOf_append, h, ih, List.flatMap_cons, List.findSome?_append]

theorem faultOf_encode_pair {a b : Shape} (ha : ∀ v, faultOf (a.encode v) = a.firstFault v)
    (hb : ∀ v, faultOf (b.encode v) = b.firstFault v) (v : a.Value × b.Value) :
    faultOf ((Shape.pair a b).encode v) = (Shape.pair a b).firstFault v := by
  rw [Shape.firstFault, Shape.nodes, List.findSome?_append, ← Shape.firstFault,
    ← Shape.firstFault, ← ha, ← hb, Shape.encode, faultOf_append]

theorem faultOf_encode_seq {s : Shape} (h : ∀ v, faultOf (s.encode v) = s.firstFault v)
    (vs : List s.Value) : faultOf ((Shape.seq s).encode vs) = (Shape.seq s).firstFault vs := by
  rw [Shape.encode, faultOf_prepend, faultOf_encodeEach h, Shape.firstFault, Shape.nodes,
    List.findSome?_cons_of_isNone rfl]

/-- The fault of writing a value is the first in it. -/
theorem faultOf_encode (s : Shape) (v : s.Value) : faultOf (s.encode v) = s.firstFault v := by
  induction s with
  | option s ih =>
    cases v with
    | none => rfl
    | some v => exact (faultOf_prepend [1] (s.encode v)).trans (ih v)
  | seq s ih => exact faultOf_encode_seq ih v
  -- a map is written as the list of its entries
  | map k t ihk iht => exact faultOf_encode_seq (s := .pair k t) (faultOf_encode_pair ihk iht) v
  | pair a b iha ihb => exact faultOf_encode_pair iha ihb v
  | sum n p ih =>
    rw [Shape.encode, faultOf_append, faultOf_encodeIndex, ih, Shape.firstFault, Shape.firstFault,
      Shape.nodes, ← List.singleton_append, List.findSome?_append, List.findSome?_singleton]
  | _ => rfl

/-- **Writing fails with the first fault in the value.** -/
theorem encode_eq_error_iff {s : Shape} {v : s.Value} {e : WireError} :
    s.encode v = .error e ↔ s.firstFault v = some e := by
  rw [← faultOf_encode, faultOf_eq_some_iff]

theorem exists_encode_iff {s : Shape} {v : s.Value} :
    (∃ b, s.encode v = .ok b) ↔ s.firstFault v = none := by
  rw [← faultOf_encode, faultOf_eq_none_iff]

end SourceHost
