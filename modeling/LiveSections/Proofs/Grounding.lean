import LiveSections.Properties.File
import LiveSections.Proofs.Overrides
import LiveSections.Proofs.Valueless
import Mathlib.Data.List.Basic
import Mathlib.Tactic.Common

/-!
# Heaps that nothing leads out of

- `Value.Within`, `Cell.Within`, `Heap.Closed`: values and cells that lead to cells that are there.
- `Yaml.Build.Lands`: steps of building that keep the heap closed.
- `Yaml.load_closed`: **what is read from a text leads to cells that are there.**
- `Properties.ofYaml_closed`: the same for the properties of a file.
-/

namespace LiveSections

/-- The cell that a value leads to is one of the first `n`. -/
def Value.Within (n : Nat) (v : Value) : Prop := ∀ r : Nat, v.cell? = some r → r < n

theorem Value.within_of_cell? {n : Nat} {v : Value} (h : v.cell? = .none) : v.Within n := by
  intro r hr
  cases h.symm.trans hr

theorem Value.Within.mono {n n' : Nat} {v : Value} (h : v.Within n) (hn : n ≤ n') : v.Within n' :=
  fun r hr => Nat.lt_of_lt_of_le (h r hr) hn

/-- All that a cell holds leads to the first `n` cells. -/
def Cell.Within (n : Nat) : Cell → Prop
  | sequence items => ∀ v ∈ items, v.Within n
  | mapping entries => ∀ e ∈ entries, e.1.Within n ∧ e.2.Within n

theorem Cell.Within.mono {n n' : Nat} {c : Cell} (h : c.Within n) (hn : n ≤ n') : c.Within n' := by
  cases c with
  | sequence items => exact fun v hv => (h v hv).mono hn
  | mapping entries => exact fun e he => ⟨(h e he).1.mono hn, (h e he).2.mono hn⟩

/-- No cell leads out of the heap. -/
def Heap.Closed (h : Heap) : Prop :=
  ∀ (r : Nat) (c : Cell), h.cells[r]? = some c → c.Within h.cells.size

namespace Heap

variable {h : Heap}

theorem closed_empty : Heap.empty.Closed := by
  intro r c hr
  rw [Heap.empty, Array.getElem?_empty] at hr
  cases hr

theorem size_alloc (h : Heap) (c : Cell) : (h.alloc c).1.cells.size = h.cells.size + 1 :=
  Array.size_push _

theorem size_le_alloc (h : Heap) (c : Cell) : h.cells.size ≤ (h.alloc c).1.cells.size :=
  (h.size_alloc c).symm ▸ Nat.le_succ _

theorem size_put (h : Heap) (r : Ref) (c : Cell) : (h.put r c).cells.size = h.cells.size :=
  Array.size_setIfInBounds

theorem Closed.alloc (hc : h.Closed) {c : Cell} (hw : c.Within h.cells.size) :
    (h.alloc c).1.Closed := by
  intro r c' hr
  rw [size_alloc]
  change (h.cells.push c)[r]? = some c' at hr
  rw [Array.getElem?_push] at hr
  split at hr
  · cases hr
    exact hw.mono (Nat.le_succ _)
  · exact (hc r c' hr).mono (Nat.le_succ _)

theorem Closed.put (hc : h.Closed) (r : Ref) {c : Cell} (hw : c.Within h.cells.size) :
    (h.put r c).Closed := by
  intro s c' hs
  rw [size_put]
  change (h.cells.setIfInBounds r c)[s]? = some c' at hs
  rw [Array.getElem?_setIfInBounds] at hs
  split at hs
  · split at hs
    · cases hs
      exact hw
    · cases hs
  · exact hc s c' hs

theorem Closed.entries (hc : h.Closed) (r : Ref) :
    ∀ e ∈ h.entries r, e.1.Within h.cells.size ∧ e.2.Within h.cells.size := by
  unfold Heap.entries
  cases hr : h.cells[r]? with
  | none => exact fun e he => absurd he List.not_mem_nil
  | some c =>
    cases c with
    | sequence items => exact fun e he => absurd he List.not_mem_nil
    | mapping entries => exact hc r _ hr

end Heap

namespace Yaml

/-- What is wrapped up as a value that is no collection. -/
theorem cell?_of_map {ε α : Type} {r : Except ε α} {f : α → Value} {v : Value}
    (hf : ∀ a, (f a).cell? = none) (h : r.map f = .ok v) : v.cell? = none := by
  cases r with
  | error e => cases h
  | ok a =>
    cases h
    exact hf a

theorem cell?_of_timestampValue {t : Text} {v : Value} (h : timestampValue t = .ok v) :
    v.cell? = none := by
  unfold timestampValue at h
  dsimp only at h
  split at h
  · cases h
  · next parts _ =>
    cases hr : readTimestamp parts with
    | error e =>
      rw [hr] at h
      cases h
    | ok d =>
      rw [hr] at h
      cases d <;>
      · cases h
        rfl

theorem cell?_of_binaryValue {t : Text} {v : Value} (h : binaryValue t = .ok v) :
    v.cell? = none := by
  unfold binaryValue at h
  split at h
  · split at h
    · cases h
      rfl
    · cases h
  · cases h

/-- No scalar leads to a cell. -/
theorem cell?_of_scalarValue {kind : Kind} {t : Text} {v : Value}
    (h : scalarValue kind t = .ok v) : v.cell? = none := by
  cases kind
  case bool => exact cell?_of_map (fun _ => rfl) (mapError_eq_ok_iff.mp h)
  case int => exact cell?_of_map (fun _ => rfl) (mapError_eq_ok_iff.mp h)
  case float => exact cell?_of_map (fun _ => rfl) (mapError_eq_ok_iff.mp h)
  case timestamp => exact cell?_of_timestampValue (mapError_eq_ok_iff.mp h)
  case binary => exact cell?_of_binaryValue (mapError_eq_ok_iff.mp h)
  all_goals
    cases h
    rfl

/-! ## Steps of building -/

/-- The cells and the values of nodes lead to cells that are there. -/
structure Building.Closed (b : Building) : Prop where
  heap : b.heap.Closed
  made : ∀ (n : Nat) (v : Value), b.made[n]?.join = some v → v.Within b.heap.cells.size

namespace Build

variable {α β : Type} {k : Nat}

/-- A step that keeps the heap closed, takes no cell away, and gives what is right for as many cells
as there are then. -/
def LandsFrom (b : Building) (P : Nat → α → Prop) (x : Build α) : Prop :=
  ∀ a b', x.run b = .ok (a, b') →
    b'.Closed ∧ b.heap.cells.size ≤ b'.heap.cells.size ∧ P b'.heap.cells.size a

/-- A step lands wherever there are at least `k` cells and none leads out of the heap. -/
def Lands (k : Nat) (P : Nat → α → Prop) (x : Build α) : Prop :=
  ∀ b : Building, b.Closed → k ≤ b.heap.cells.size → LandsFrom b P x

namespace Lands

variable {P : Nat → α → Prop} {Q : Nat → β → Prop}

theorem pure {a : α} (ha : ∀ n, k ≤ n → P n a) : Lands k P (Pure.pure a : Build α) := by
  rintro b hb hk _ _ ⟨⟩
  exact ⟨hb, Nat.le_refl _, ha _ hk⟩

theorem malformed (f : Fault) : Lands k P (malformed f : Build α) := nofun

theorem bind {x : Build α} {f : α → Build β} (hx : Lands k P x)
    (hf : ∀ a n, k ≤ n → P n a → Lands n Q (f a)) : Lands k Q (x >>= f) := by
  intro b hb hk c b'' hrun
  rw [StateT.run_bind] at hrun
  cases hr : x.run b with
  | error e =>
    rw [hr] at hrun
    cases hrun
  | ok r =>
    rw [hr] at hrun
    obtain ⟨hb', hsize, ha⟩ := hx b hb hk r.1 r.2 hr
    obtain ⟨hb'', hsize', hc⟩ := hf r.1 _ (Nat.le_trans hk hsize) ha r.2 hb' (Nat.le_refl _) c b'' hrun
    exact ⟨hb'', Nat.le_trans hsize hsize', hc⟩

/-- To look at what is there changes nothing. -/
theorem get_bind_from {f : Building → Build β}
    (hf : ∀ b, b.Closed → k ≤ b.heap.cells.size → LandsFrom b Q (f b)) :
    Lands k Q (getThe Building >>= f) := hf

theorem get_bind {f : Building → Build β} (hf : ∀ b, Lands k Q (f b)) :
    Lands k Q (getThe Building >>= f) := .get_bind_from fun b => hf b b

theorem ofReading_bind {x : Except Fault α} {f : α → Build β} (hf : ∀ a, Lands k Q (f a)) :
    Lands k Q (ofReading x >>= f) := by
  cases x with
  | error e => exact (malformed (P := fun _ _ => False) e).bind fun _ _ _ h => h.elim
  | ok a => exact hf a

theorem mapM {f : α → Build β} (hQ : ∀ b n n', n ≤ n' → Q n b → Q n' b)
    (hf : ∀ a n, k ≤ n → Lands n Q (f a)) (l : List α) :
    Lands k (fun n bs => ∀ b ∈ bs, Q n b) (l.mapM f) := by
  induction l generalizing k with
  | nil => exact pure fun _ _ => List.forall_mem_nil _
  | cons a l ih =>
    rw [List.mapM_cons]
    refine (hf a k (Nat.le_refl _)).bind fun b n hn hb => ?_
    refine (ih fun a n' hn' => hf a n' (Nat.le_trans hn hn')).bind fun bs n' hn' hbs => ?_
    -- the later steps have only added cells, so what the first one gave is still right
    exact pure fun n'' hn'' => List.forall_mem_cons.mpr
      ⟨hQ b n n'' (Nat.le_trans hn' hn'') hb, fun c hc => hQ c n' n'' hn'' (hbs c hc)⟩

end Lands

theorem node?_lands (n : NodeId) : Lands k (fun _ _ => True) (node? n) :=
  .get_bind fun _ => .pure fun _ _ => trivial

/-- A value for a node may lead to the cells that are there. -/
theorem closed_setMade {b : Building} (hb : b.Closed) (n : NodeId) {v : Value}
    (hv : v.Within b.heap.cells.size) (met : Array NodeId) :
    Building.Closed { b with made := b.made.setIfInBounds n (some v), met } := by
  refine ⟨hb.heap, fun i v' hi => ?_⟩
  change (b.made.setIfInBounds n (some v))[i]?.join = some v' at hi
  rw [Array.getElem?_setIfInBounds] at hi
  split at hi
  · split at hi
    · cases hi
      exact hv
    · cases hi
  · exact hb.made i v' hi

theorem closed_alloc {b : Building} (hb : b.Closed) {c : Cell} (hc : c.Within b.heap.cells.size) :
    Building.Closed { b with heap := (b.heap.alloc c).1 } := by
  exact ⟨hb.heap.alloc hc, fun n v hv => (hb.made n v hv).mono (b.heap.size_le_alloc c)⟩

/-- The value of a new cell leads to it. -/
theorem within_of_alloc {h : Heap} {c : Cell} {v : Value} (hv : v.cell? = some (h.alloc c).2) :
    v.Within (h.alloc c).1.cells.size := by
  intro r hr
  obtain rfl := Option.some.inj (hv.symm.trans hr)
  rw [Heap.size_alloc]
  exact Nat.lt_succ_self _

theorem enter_lands (n : NodeId) {c : Cell} (hc : ∀ k, c.Within k) {value : Ref → Value}
    (hv : ∀ r, (value r).cell? = some r) :
    Lands k (fun k v => v.Within k) (enter n c value) := by
  rintro b hb hk _ _ ⟨⟩
  have hwithin : (value (b.heap.alloc c).2).Within (b.heap.alloc c).1.cells.size :=
    within_of_alloc (hv _)
  exact ⟨closed_setMade (closed_alloc hb (hc _)) n hwithin _, b.heap.size_le_alloc c, hwithin⟩

theorem enterTuple_lands {items : List Value} (hitems : ∀ v ∈ items, v.Within k) :
    Lands k (fun k v => v.Within k) (enterTuple items) := by
  rintro b hb hk _ _ ⟨⟩
  have hcell : (Cell.sequence items).Within b.heap.cells.size := fun v hv => (hitems v hv).mono hk
  exact ⟨closed_alloc hb hcell, b.heap.size_le_alloc _, within_of_alloc rfl⟩

theorem makeScalar_lands (n : NodeId) (kind : Kind) :
    Lands k (fun k v => v.Within k) (makeScalar n kind) := by
  intro b hb hk v b' hrun
  rw [run_makeScalar] at hrun
  split at hrun
  · cases hrun
  · next t _ =>
    split at hrun
    · cases hrun
    · cases hscalar : scalarValue kind t with
      | error e =>
        rw [hscalar] at hrun
        cases hrun
      | ok v =>
        rw [hscalar] at hrun
        cases hrun
        have hv : v.Within b.heap.cells.size := Value.within_of_cell? (cell?_of_scalarValue hscalar)
        exact ⟨closed_setMade hb n hv b.met, Nat.le_refl _, hv⟩

theorem make_lands (n : NodeId) : Lands k (fun k v => v.Within k) (make n) := by
  intro b hb hk
  unfold LandsFrom
  rw [run_make]
  have hitems : ∀ k, (Cell.sequence []).Within k := fun _ => List.forall_mem_nil _
  have hentries : ∀ k, (Cell.mapping []).Within k := fun _ => List.forall_mem_nil _
  split
  · next v hmade =>
    rintro _ _ ⟨⟩
    exact ⟨hb, Nat.le_refl _, hb.made n v hmade⟩
  · exact enter_lands n hitems (fun _ => rfl) b hb hk
  · exact enter_lands n hitems (fun _ => rfl) b hb hk
  · exact enter_lands n hentries (fun _ => rfl) b hb hk
  · exact enter_lands n hitems (fun _ => rfl) b hb hk
  · exact Lands.malformed _ b hb hk
  · exact Lands.malformed _ b hb hk
  · exact Lands.malformed _ b hb hk
  · exact makeScalar_lands n _ b hb hk

theorem makeKey_lands (n : NodeId) : Lands k (fun k v => v.Within k) (makeKey n) := by
  refine (make_lands n).bind fun v n hn hv => ?_
  split
  · exact (Lands.malformed (P := fun _ _ => False) _).bind fun _ _ _ h => h.elim
  · exact .pure fun n' hn' => hv.mono hn'

theorem within_putEntry {k v : Value} {n : Nat} (hk : k.Within n) (hv : v.Within n)
    {es : List (Value × Value)} (hes : ∀ e ∈ es, e.1.Within n ∧ e.2.Within n) :
    ∀ e ∈ putEntry k v es, e.1.Within n ∧ e.2.Within n := by
  induction es with
  | nil => exact List.forall_mem_singleton.mpr ⟨hk, hv⟩
  | cons e es ih =>
    obtain ⟨he, hes⟩ := List.forall_mem_cons.mp hes
    rw [putEntry]
    split
    · exact List.forall_mem_cons.mpr ⟨⟨he.1, hv⟩, hes⟩
    · exact List.forall_mem_cons.mpr ⟨he, ih hes⟩

theorem within_foldl_putEntry {n : Nat} {pairs es : List (Value × Value)}
    (hpairs : ∀ e ∈ pairs, e.1.Within n ∧ e.2.Within n)
    (hes : ∀ e ∈ es, e.1.Within n ∧ e.2.Within n) :
    ∀ e ∈ pairs.foldl (fun es e => putEntry e.1 e.2 es) es, e.1.Within n ∧ e.2.Within n := by
  induction pairs generalizing es with
  | nil => exact hes
  | cons e pairs ih =>
    obtain ⟨he, hpairs⟩ := List.forall_mem_cons.mp hpairs
    exact ih hpairs (within_putEntry he.1 he.2 hes)

theorem fillEntries_lands (n : NodeId) :
    Lands k (fun k es => ∀ e ∈ es, e.1.Within k ∧ e.2.Within k) (fillEntries n) := by
  have hpair (e : NodeId × NodeId) (i : Nat) : Lands i (fun k e => e.1.Within k ∧ e.2.Within k)
      (do return ((← makeKey e.1), (← make e.2))) :=
    (makeKey_lands e.1).bind fun v₁ i hi hv₁ => (make_lands e.2).bind fun v₂ j hj hv₂ =>
      .pure fun l hl => ⟨hv₁.mono (Nat.le_trans hj hl), hv₂.mono hl⟩
  have hpairs (es : List (NodeId × NodeId)) (k : Nat) :
      Lands k (fun k es => ∀ e ∈ es, e.1.Within k ∧ e.2.Within k) (do
        let pairs ← es.mapM fun e => do return ((← makeKey e.1), (← make e.2))
        return pairs.foldl (fun es e => putEntry e.1 e.2 es) []) := by
    refine (Lands.mapM (fun e i j hij he => ⟨he.1.mono hij, he.2.mono hij⟩)
      (fun e i _ => hpair e i) es).bind fun pairs i hi hpairs => .pure fun j hj => ?_
    exact within_foldl_putEntry (fun e he => ⟨(hpairs e he).1.mono hj, (hpairs e he).2.mono hj⟩)
      (List.forall_mem_nil _)
  refine .get_bind_from fun b hb hk => ?_
  split
  · cases hflat : (Graph.flatten n).run b.graph with
    | error e => exact fun _ _ hrun => nomatch hrun
    | ok r => exact hpairs (r.2.entries n) _ { b with graph := r.2 } ⟨hb.heap, hb.made⟩ (Nat.le_refl _)
  · exact Lands.malformed _ b hb hk

theorem fillSet_lands (n : NodeId) :
    Lands k (fun k vs => ∀ v ∈ vs, v.Within k) (fillSet n) := by
  refine (fillEntries_lands n).bind fun es i hi hes => ?_
  split
  · exact fun _ _ _ _ _ hrun => nomatch hrun
  · refine .pure fun j hj => List.forall_mem_map.mpr fun e he => ?_
    exact (hes e he).1.mono hj

theorem fillItems_lands (n : NodeId) : Lands k (fun _ _ => True) (fillItems n) := by
  refine (node?_lands n).bind fun node _ _ _ => ?_
  split
  · exact .pure fun _ _ => trivial
  · exact .malformed _

theorem makePair_lands (n : NodeId) : Lands k (fun k v => v.Within k) (makePair n) := by
  refine (node?_lands n).bind fun node _ _ _ => ?_
  split
  · refine (make_lands _).bind fun v₁ i hi hv₁ => (make_lands _).bind fun v₂ j hj hv₂ => ?_
    refine enterTuple_lands ?_
    exact List.forall_mem_cons.mpr ⟨hv₁.mono hj, List.forall_mem_singleton.mpr hv₂⟩
  · exact .malformed _

theorem content_lands (n : NodeId) (kind : Kind) :
    Lands k (fun k c => c.Within k) (content n kind) := by
  have hmono (v : Value) (n n' : Nat) (hn : n ≤ n') (h : v.Within n) : v.Within n' := h.mono hn
  unfold content
  split
  · exact (fillEntries_lands n).bind fun es i hi hes => .pure fun j hj =>
      Cell.Within.mono (c := .mapping es) hes hj
  · exact (fillSet_lands n).bind fun vs i hi hvs => .pure fun j hj =>
      Cell.Within.mono (c := .sequence vs) hvs hj
  · refine (fillItems_lands n).bind fun ns i hi _ =>
      (Lands.mapM hmono (fun a _ _ => makePair_lands a) ns).bind fun vs j hj hvs => .pure fun l hl => ?_
    exact Cell.Within.mono (c := .sequence vs) hvs hl
  · refine (fillItems_lands n).bind fun ns i hi _ =>
      (Lands.mapM hmono (fun a _ _ => make_lands a) ns).bind fun vs j hj hvs => .pure fun l hl => ?_
    exact Cell.Within.mono (c := .sequence vs) hvs hl

theorem fill_lands (n : NodeId) : Lands k (fun _ _ => True) (fill n) := by
  refine .get_bind fun b => (content_lands n _).bind fun c i hi hc => ?_
  rintro b hb hk _ _ ⟨⟩
  -- a cell is filled where it is, so there are as many as before
  have hput (r : Ref) : Building.Closed { b with heap := b.heap.put r c } := by
    refine ⟨hb.heap.put r (hc.mono hk), fun n v hv => ?_⟩
    rw [Heap.size_put]
    exact hb.made n v hv
  have hsize (r : Ref) : b.heap.cells.size ≤ (b.heap.put r c).cells.size :=
    Nat.le_of_eq (b.heap.size_put r c).symm
  dsimp only
  split
  · exact ⟨hput _, hsize _, trivial⟩
  · exact ⟨hput _, hsize _, trivial⟩
  · exact ⟨hput _, hsize _, trivial⟩
  · exact ⟨hb, Nat.le_refl _, trivial⟩

theorem fillFrom_lands (i count : Nat) : Lands k (fun _ _ => True) (fillFrom i count) := by
  induction count generalizing i k with
  | zero => exact .pure fun _ _ => trivial
  | succ count ih =>
    refine .get_bind fun b => ?_
    split
    · exact .pure fun _ _ => trivial
    · exact (fill_lands _).bind fun _ _ _ _ => ih _

theorem root_lands (n : NodeId) : Lands k (fun k v => v.Within k) (root n) := by
  refine (make_lands n).bind fun v i hi hv => .get_bind fun b => ?_
  exact (fillFrom_lands 0 _).bind fun _ j hj _ => .pure fun l hl => hv.mono (Nat.le_trans hj hl)

end Build

/-- **What is read from a text leads to cells that are there.** -/
theorem load_closed {t : Text} {h h' : Heap} {v : Value} (hc : h.Closed)
    (hload : load t h = .ok (h', v)) : h'.Closed ∧ v.Within h'.cells.size := by
  cases hn : nodes t with
  | error e =>
    rw [load_of_nodes_error hn] at hload
    cases hload
  | ok r =>
    cases r with
    | none =>
      rw [load_of_nodes_none hn] at hload
      cases hload
      exact ⟨hc, Value.within_of_cell? rfl⟩
    | some r =>
      obtain ⟨n, g⟩ := r
      rw [load_of_nodes hn] at hload
      have hclosed : Building.Closed
          { graph := g, heap := h, made := Array.replicate g.nodes.size none } := by
        refine ⟨hc, fun i v hv => ?_⟩
        rw [Array.getElem?_replicate] at hv
        split at hv <;> cases hv
      cases hrun : (Build.root n).run
          { graph := g, heap := h, made := Array.replicate g.nodes.size none } with
      | error e =>
        rw [hrun] at hload
        cases hload
      | ok made =>
        rw [hrun] at hload
        cases hload
        obtain ⟨hb, -, hv⟩ := Build.root_lands n _ hclosed (Nat.zero_le _) made.1 made.2 hrun
        exact ⟨hb.heap, hv⟩

end Yaml

namespace Properties

/-- Entries keep their values. -/
theorem within_of_ofEntries {h : Heap} {n : Nat} {es : List (Value × Value)} {p : Properties}
    (hes : ∀ e ∈ es, e.2.Within n) (hp : ofEntries h es = .ok p) : ∀ e ∈ p, e.2.Within n := by
  have hnamed {es : List (Value × Value)} {named : Properties} (hes : ∀ e ∈ es, e.2.Within n)
      (h : (es.mapM fun e => do return ((← h.display e.1), e.2)) = .ok named) :
      ∀ e ∈ named, e.2.Within n := by
    induction es generalizing named with
    | nil =>
      cases h
      exact List.forall_mem_nil _
    | cons e es ih =>
      obtain ⟨he, hes⟩ := List.forall_mem_cons.mp hes
      rw [List.mapM_cons] at h
      obtain ⟨entry, hentry, h⟩ := Job.exists_of_bind_ok h
      obtain ⟨rest, hrest, h⟩ := Job.exists_of_bind_ok h
      obtain ⟨t, -, ht⟩ := Job.exists_of_bind_ok hentry
      cases h
      cases ht
      exact List.forall_mem_cons.mpr ⟨he, ih hes hrest⟩
  obtain ⟨named, hentries, rfl⟩ := Job.exists_of_map_ok hp
  exact Table.forall_putAll (List.forall_mem_nil _) (hnamed hes hentries)

/-- **The properties of a file lead to cells that are there.** -/
theorem ofYaml_closed {path : Path} {t : Text} {h h' : Heap} {p : Properties} (hc : h.Closed)
    (hp : ofYaml path t h = .ok (h', p)) : h'.Closed ∧ ∀ e ∈ p, e.2.Within h'.cells.size := by
  obtain ⟨v, hload, hv⟩ := ofYaml_ok_iff.mp hp
  obtain ⟨hc', -⟩ := Yaml.load_closed hc hload
  refine ⟨hc', ?_⟩
  obtain ⟨-, rfl⟩ | ⟨r, -, hes⟩ := ofValue_ok_iff.mp hv
  · exact List.forall_mem_nil _
  · exact within_of_ofEntries (fun e he => (hc'.entries r e he).2) hes

end Properties

end LiveSections
