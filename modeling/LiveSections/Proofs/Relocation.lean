import LiveSections.Value.Display
import Mathlib.Data.List.Basic
import Mathlib.Tactic.Common

/-!
# Heaps with other cells in between

Two runs of a program make the same collections at different places if the heap of one run has cells
that the other has not. What programs can see of a value does not tell the place.

- `Relocation.ref`: where a cell has gone; the first cells stay, those behind them make room.
- `Value.moved`: a value that leads to the cells where they have gone.
- `Relocation.Displaced`: a heap with the cells of another one where they have gone, and any others.
- `Displaced.alloc`, `Displaced.put`: new cells and changes keep two heaps displaced.
- `Displaced.sameKey`, `Displaced.quoted`, `Displaced.display`: **what is seen of values stays,**
  and so does what is not told of them (`Displaced.isUntold`).
-/

namespace LiveSections

/-! ## Moved values -/

/-- Room among cells: the first `base` ones stay, the others make room for `gap` cells. -/
structure Relocation where
  base : Nat
  gap : Nat

/-- Where a cell has gone. -/
def Relocation.ref (m : Relocation) (r : Nat) : Nat := if r < m.base then r else r + m.gap

variable {m : Relocation}

@[simp] theorem Relocation.ref_inj {r s : Nat} : m.ref r = m.ref s ↔ r = s := by
  unfold ref
  constructor
  · intro h
    split at h <;> split at h <;> omega
  · rintro rfl
    rfl

@[simp] theorem Relocation.ref_beq {r s : Ref} : (m.ref r == m.ref s) = (r == s) := by
  by_cases h : r = s <;> simp [h]

theorem Relocation.ref_mem_map {r : Ref} {active : List Ref} :
    m.ref r ∈ active.map m.ref ↔ r ∈ active := by
  simp

namespace Value

/-- A value that leads to the cells where they have gone. -/
def moved (m : Relocation) : Value → Value
  | list r => list (m.ref r)
  | tuple r => tuple (m.ref r)
  | dict r => dict (m.ref r)
  | set r => set (m.ref r)
  | exception c r => exception c (m.ref r)
  | v => v

variable (v w : Value)

/-- A value that leads to no cell is none other. -/
theorem moved_of_cell? {v : Value} (h : v.cell? = .none) : v.moved m = v := by
  cases v <;> first | rfl | cases h

@[simp] theorem moved_float (x : Float) : (float x).moved m = float x := rfl

@[simp] theorem moved_text (t : Text) : (text t).moved m = text t := rfl

@[simp] theorem moved_bytes (bs : List UInt8) : (bytes bs).moved m = bytes bs := rfl

@[simp] theorem moved_eq_text_iff {t : Text} : v.moved m = text t ↔ v = text t := by
  cases v <;> simp [moved]

@[simp] theorem moved_eq_bytes_iff {bs : List UInt8} : v.moved m = bytes bs ↔ v = bytes bs := by
  cases v <;> simp [moved]

@[simp] theorem typeName_moved : (v.moved m).typeName = v.typeName := by
  cases v <;> rfl

@[simp] theorem fullTypeName_moved : (v.moved m).fullTypeName = v.fullTypeName := by
  cases v <;> rfl

@[simp] theorem toInt?_moved : (v.moved m).toInt? = v.toInt? := by
  cases v <;> rfl

@[simp] theorem isMutable_moved : (v.moved m).isMutable = v.isMutable := by
  cases v <;> rfl

@[simp] theorem isNone_moved : (v.moved m).isNone = v.isNone := by
  cases v <;> rfl

@[simp] theorem cell?_moved : (v.moved m).cell? = v.cell?.map m.ref := by
  cases v <;> rfl

@[simp] theorem quotedPlain_moved : (v.moved m).quotedPlain = v.quotedPlain := by
  cases v <;> rfl

@[simp] theorem dots_moved : (v.moved m).dots = v.dots := by
  cases v <;> rfl

@[simp] theorem isPlaced_moved : (v.moved m).isPlaced = v.isPlaced := by
  cases v <;> rfl

@[simp] theorem isOnlyItself_moved : (v.moved m).isOnlyItself = v.isOnlyItself := by
  cases v <;> rfl

theorem sameKey_moved : (v.moved m).sameKey (w.moved m) = v.sameKey w := by
  cases v <;> cases w <;> first | rfl | exact Relocation.ref_beq

end Value

/-- A cell whose values lead to where cells have gone. -/
def Cell.moved (m : Relocation) : Cell → Cell
  | sequence items => sequence (items.map (Value.moved m))
  | mapping entries => mapping (entries.map (Prod.map (Value.moved m) (Value.moved m)))

/-! ## Displaced heaps -/

/-- The second heap has the cells of the first one where they have gone, and as many others as there
is room for. -/
structure Relocation.Displaced (m : Relocation) (h h' : Heap) : Prop where
  base_le : m.base ≤ h.cells.size
  size_eq : h'.cells.size = h.cells.size + m.gap
  cell_eq : ∀ r : Nat, h'.cells[m.ref r]? = h.cells[r]?.map (Cell.moved m)

/-- The second heap begins with the cells of the first one. -/
def Heap.Extends (h h' : Heap) : Prop :=
  ∀ (r : Nat) (c : Cell), h.cells[r]? = some c → h'.cells[r]? = some c

namespace Heap

variable {h h' h'' : Heap}

theorem Extends.refl (h : Heap) : h.Extends h := fun _ _ hc => hc

theorem Extends.trans (hh : h.Extends h') (hh' : h'.Extends h'') : h.Extends h'' :=
  fun r c hc => hh' r c (hh r c hc)

theorem extends_alloc (h : Heap) (c : Cell) : h.Extends (h.alloc c).1 := by
  intro r c' hc
  have hr : r < h.cells.size := (Array.getElem?_eq_some_iff.mp hc).1
  show (h.cells.push c)[r]? = _
  rw [Array.getElem?_push, if_neg (by omega), hc]

theorem lt_of_mem_items {r : Nat} {v : Value} (hv : v ∈ h.items r) : r < h.cells.size := by
  unfold items at hv
  by_contra hr
  rw [Array.getElem?_eq_none (by omega)] at hv
  cases hv

theorem lt_of_mem_entries {r : Nat} {e : Value × Value} (he : e ∈ h.entries r) :
    r < h.cells.size := by
  unfold entries at he
  by_contra hr
  rw [Array.getElem?_eq_none (by omega)] at he
  cases he

end Heap

namespace Relocation.Displaced

variable {h h' : Heap} (hd : m.Displaced h h')
include hd

theorem items (r : Ref) : h'.items (m.ref r) = (h.items r).map (Value.moved m) := by
  unfold Heap.items
  rw [hd.cell_eq]
  rcases h.cells[r]? with _ | ⟨items⟩ | ⟨entries⟩ <;> rfl

theorem entries (r : Ref) :
    h'.entries (m.ref r) = (h.entries r).map (Prod.map (Value.moved m) (Value.moved m)) := by
  unfold Heap.entries
  rw [hd.cell_eq]
  rcases h.cells[r]? with _ | ⟨items⟩ | ⟨entries⟩ <;> rfl

theorem ref_size : m.ref h.cells.size = h'.cells.size := by
  have hbase := hd.base_le
  have hsize := hd.size_eq
  unfold Relocation.ref
  split <;> omega

theorem ref_lt {r : Nat} : m.ref r < h'.cells.size ↔ r < h.cells.size := by
  have hbase := hd.base_le
  have hsize := hd.size_eq
  unfold Relocation.ref
  split <;> omega

theorem alloc (c : Cell) :
    m.Displaced (h.alloc c).1 (h'.alloc (c.moved m)).1 ∧
      (h'.alloc (c.moved m)).2 = m.ref (h.alloc c).2 := by
  have hbase := hd.base_le
  have hsize := hd.size_eq
  refine ⟨⟨?_, ?_, fun r => ?_⟩, hd.ref_size.symm⟩
  · show m.base ≤ (h.cells.push c).size
    rw [Array.size_push]
    omega
  · show (h'.cells.push _).size = (h.cells.push c).size + m.gap
    rw [Array.size_push, Array.size_push]
    omega
  · show (h'.cells.push _)[m.ref r]? = (h.cells.push c)[r]?.map _
    rw [Array.getElem?_push, Array.getElem?_push, ← hd.ref_size]
    -- the new cell is the last one of either heap
    by_cases hr : r = h.cells.size
    · simp [hr]
    · rw [if_neg (by simpa using hr), if_neg hr]
      exact hd.cell_eq r

theorem put (r : Ref) (c : Cell) : m.Displaced (h.put r c) (h'.put (m.ref r) (c.moved m)) := by
  refine ⟨by simpa [Heap.put] using hd.base_le, by simpa [Heap.put] using hd.size_eq, fun s => ?_⟩
  show (h'.cells.setIfInBounds _ _)[m.ref s]? = (h.cells.setIfInBounds r c)[s]?.map _
  rw [Array.getElem?_setIfInBounds, Array.getElem?_setIfInBounds, hd.cell_eq]
  by_cases hrs : r = s
  · rw [if_pos (by rw [hrs]), if_pos hrs]
    by_cases hr : r < h.cells.size
    · rw [if_pos (hd.ref_lt.mpr hr), if_pos hr]
      rfl
    · rw [if_neg (fun h => hr (hd.ref_lt.mp h)), if_neg hr]
      rfl
  · rw [if_neg (by simpa using hrs), if_neg hrs]

theorem elements? (v : Value) :
    (v.moved m).elements? h' = (v.elements? h).map (List.map (Value.moved m)) := by
  cases v
  case text t => simp [Value.moved, Value.elements?, Function.comp_def]
  case bytes bs => simp [Value.moved, Value.elements?, Function.comp_def]
  case list r => exact congrArg some (hd.items r)
  case tuple r => exact congrArg some (hd.items r)
  case set r => exact congrArg some (hd.items r)
  case dict r => simp [Value.moved, Value.elements?, hd.entries, Function.comp_def]
  all_goals rfl

end Relocation.Displaced

/-! ## How far values lead -/

namespace Heap

/-- How many cells are not active. -/
def fresh (h : Heap) (active : List Ref) : Nat :=
  ((List.range h.cells.size).filter fun r => decide (r ∉ active)).length

theorem fresh_le (h : Heap) (active : List Ref) : h.fresh active ≤ h.cells.size := by
  have hlength := List.length_filter_le (fun r => decide (r ∉ active)) (List.range h.cells.size)
  rwa [List.length_range] at hlength

/-- To enter a cell makes it active. -/
theorem fresh_cons_lt {h : Heap} {active : List Ref} {r : Ref} (hr : r < h.cells.size)
    (ha : r ∉ active) : h.fresh (r :: active) < h.fresh active := by
  have hfilter : ((List.range h.cells.size).filter fun s => decide (s ∉ r :: active)) =
      ((List.range h.cells.size).filter fun s => decide (s ∉ active)).filter fun s => s ≠ r := by
    rw [List.filter_filter]
    refine List.filter_congr fun s _ => ?_
    by_cases hs : s = r <;> simp [hs]
  rw [fresh, fresh, hfilter, List.length_filter_lt_length_iff_exists]
  exact ⟨r, by simp [hr, ha], by simp⟩

end Heap

/-- What is done to moved items goes as it goes with the items. -/
theorem mapM_moved {ε α β : Type} {f f' : α → Except ε β} {g : α → α} {l : List α}
    (hf : ∀ a ∈ l, f' (g a) = f a) : (l.map g).mapM f' = l.mapM f := by
  induction l with
  | nil => rfl
  | cons a l ih =>
    rw [List.map_cons, List.mapM_cons, List.mapM_cons, hf a List.mem_cons_self,
      ih fun b hb => hf b (List.mem_cons_of_mem a hb)]

theorem findSome?_moved {α β : Type} {f f' : α → Option β} {g : α → α} {k : β → β} {l : List α}
    (hf : ∀ a ∈ l, f' (g a) = (f a).map k) : (l.map g).findSome? f' = (l.findSome? f).map k := by
  induction l with
  | nil => rfl
  | cons a l ih =>
    rw [List.map_cons, List.findSome?_cons, List.findSome?_cons, hf a List.mem_cons_self,
      ih fun b hb => hf b (List.mem_cons_of_mem a hb)]
    cases f a <;> rfl

theorem all_zip_moved {α : Type} {f f' : α → α → Bool} {g : α → α} {xs ys : List α}
    (hf : ∀ a ∈ xs, ∀ b, f' (g a) (g b) = f a b) :
    ((xs.map g).zip (ys.map g)).all (fun e => f' e.1 e.2) = (xs.zip ys).all fun e => f e.1 e.2 := by
  induction xs generalizing ys with
  | nil => rfl
  | cons a xs ih =>
    cases ys with
    | nil => rfl
    | cons b ys =>
      rw [List.map_cons, List.map_cons, List.zip_cons_cons, List.zip_cons_cons, List.all_cons,
        List.all_cons, ih fun a' ha' => hf a' (List.mem_cons_of_mem a ha'),
        hf a List.mem_cons_self]

/-- An item of a cell that is entered leads less far. -/
theorem Heap.fresh_lt_of_mem_items {h : Heap} {active : List Ref} {r : Ref} {v : Value}
    (ha : r ∉ active) (hv : v ∈ h.items r) {depth : Nat} (hdepth : h.fresh active < depth + 1) :
    h.fresh (r :: active) < depth := by
  have := Heap.fresh_cons_lt (Heap.lt_of_mem_items hv) ha
  omega

namespace Relocation.Displaced

variable {h h' : Heap} (hd : m.Displaced h h')
include hd

/-- One level more than there are cells suffices on both heaps. -/
theorem fresh_lt : h.fresh [] < h.cells.size + 1 ∧ h.fresh [] < h'.cells.size + 1 := by
  have hfresh := h.fresh_le []
  have hsize := hd.size_eq
  constructor <;> omega

/-- How far it may be looked into tuples does not matter, as long as all cells can be entered. -/
theorem unhashableWithin {depth depth' : Nat} {active : List Ref} (v : Value)
    (hdepth : h.fresh active < depth) (hdepth' : h.fresh active < depth') :
    h'.unhashableWithin depth' (active.map m.ref) (v.moved m) =
      (h.unhashableWithin depth active v).map (Value.moved m) := by
  -- the depths differ as the heaps have not as many cells, so both are bounded by the fresh ones
  induction depth generalizing depth' active v with
  | zero => cases hdepth
  | succ depth ih =>
    obtain _ | depth' := depth'
    · cases hdepth'
    cases v
    case tuple r =>
      show h'.unhashableWithin (depth' + 1) _ (.tuple (m.ref r)) = _
      rw [Heap.unhashableWithin, Heap.unhashableWithin]
      by_cases ha : r ∈ active
      · simp [ha]
      · rw [if_neg (fun h => ha (ref_mem_map.mp h)), if_neg ha, hd.items]
        refine findSome?_moved fun v hv => ?_
        have hinside := Heap.fresh_lt_of_mem_items ha hv hdepth
        have hinside' := Heap.fresh_lt_of_mem_items ha hv hdepth'
        exact ih v hinside hinside'
    all_goals rfl

theorem unhashable? (v : Value) :
    h'.unhashable? (v.moved m) = (h.unhashable? v).map (Value.moved m) :=
  hd.unhashableWithin v hd.fresh_lt.1 hd.fresh_lt.2

theorem sameKeyWithin {depth depth' : Nat} {active : List Ref} (v w : Value)
    (hdepth : h.fresh active < depth) (hdepth' : h.fresh active < depth') :
    h'.sameKeyWithin depth' (active.map m.ref) (v.moved m) (w.moved m) =
      h.sameKeyWithin depth active v w := by
  induction depth generalizing depth' active v w with
  | zero => cases hdepth
  | succ depth ih =>
    obtain _ | depth' := depth'
    · cases hdepth'
    cases v
    case tuple r =>
      cases w
      case tuple s =>
        show h'.sameKeyWithin (depth' + 1) _ (.tuple (m.ref r)) (.tuple (m.ref s)) = _
        rw [Heap.sameKeyWithin, Heap.sameKeyWithin]
        by_cases ha : r ∈ active
        · simp [ha]
        · rw [if_neg (fun h => ha (ref_mem_map.mp h)), if_neg ha, hd.items, hd.items]
          rw [List.length_map, List.length_map]
          refine congrArg (_ && ·) (all_zip_moved fun v hv w => ?_)
          have hinside := Heap.fresh_lt_of_mem_items ha hv hdepth
          have hinside' := Heap.fresh_lt_of_mem_items ha hv hdepth'
          exact ih v w hinside hinside'
      all_goals rfl
    all_goals exact Value.sameKey_moved (m := m) _ _

theorem sameKey (v w : Value) : h'.sameKey (v.moved m) (w.moved m) = h.sameKey v w :=
  hd.sameKeyWithin v w hd.fresh_lt.1 hd.fresh_lt.2

end Relocation.Displaced

/-! ## Texts of moved values -/

theorem ExceptionClass.countsCharacters_moved (c : ExceptionClass) (v : Value) :
    c.countsCharacters (v.moved m) = c.countsCharacters v := by
  cases v <;> rfl

/-- The files of a system error move with its arguments. -/
theorem ExceptionClass.files_moved (c : ExceptionClass) (vs : List Value) :
    c.files (vs.map (Value.moved m)) = (c.files vs).map (Value.moved m) := by
  match vs with
  | [] | [_] | [_, _] => rfl
  | _ :: _ :: file :: rest =>
    rw [List.map_cons, List.map_cons, List.map_cons, files, files, List.length_map,
      Value.isNone_moved, countsCharacters_moved]
    split
    · rfl
    · rw [List.map_cons, ← List.map_drop, List.filter_map]
      simp [Function.comp_def]

theorem ExceptionClass.kept_moved (c : ExceptionClass) (vs : List Value) :
    c.kept (vs.map (Value.moved m)) = (c.kept vs).map (Value.moved m) := by
  rw [kept, kept, files_moved, List.isEmpty_map]
  split
  · rw [List.map_take]
  · rfl

theorem ExceptionClass.mem_of_mem_kept {c : ExceptionClass} {v : Value} {vs : List Value}
    (hv : v ∈ c.kept vs) : v ∈ vs := by
  unfold kept at hv
  split at hv
  · exact List.mem_of_mem_take hv
  · exact hv

theorem codecText?_moved (family : ExceptionFamily) (vs : List Value) :
    codecText? family (vs.map (Value.moved m)) = codecText? family vs := by
  fun_cases codecText? family vs
  case case4 hencoding hdecoding htranslation =>
    -- arguments that become those of a codec's failure are such ones already
    unfold codecText?
    split
    case h_1 hvs =>
      simp only [List.map_eq_cons_iff, List.map_eq_nil_iff, Value.moved_eq_text_iff] at hvs
      obtain ⟨_, _, rfl, rfl, _, _, rfl, rfl, _, _, rfl, rfl, _, _, rfl, rfl, _, _, rfl, rfl, rfl⟩ := hvs
      exact (hencoding _ _ _ _ _ rfl rfl).elim
    case h_2 hvs =>
      simp only [List.map_eq_cons_iff, List.map_eq_nil_iff, Value.moved_eq_text_iff,
        Value.moved_eq_bytes_iff] at hvs
      obtain ⟨_, _, rfl, rfl, _, _, rfl, rfl, _, _, rfl, rfl, _, _, rfl, rfl, _, _, rfl, rfl, rfl⟩ := hvs
      exact (hdecoding _ _ _ _ _ rfl rfl).elim
    case h_3 hvs =>
      simp only [List.map_eq_cons_iff, List.map_eq_nil_iff, Value.moved_eq_text_iff] at hvs
      obtain ⟨_, _, rfl, rfl, _, _, rfl, rfl, _, _, rfl, rfl, _, _, rfl, rfl, rfl⟩ := hvs
      exact (htranslation _ _ _ _ rfl rfl).elim
    case h_4 => rfl
  all_goals simp [codecText?]

/-- Of details, texts and numbers tell the place. -/
theorem placeText_moved (details : List Value) :
    placeText (details.map (Value.moved m)) = placeText details := by
  match details with
  | [] => rfl
  | [v] => cases v <;> rfl
  | v :: w :: _ => cases v <;> cases w <;> rfl

namespace Relocation.Displaced

variable {h h' : Heap} (hd : m.Displaced h h')
include hd

/-- A value is quoted alike if what its cell holds is quoted alike. -/
theorem quotedInside {quote quote' : Value → Except TooManyDigits Text} (v : Value)
    (hquote : ∀ r : Nat, v.cell? = some r → r < h.cells.size → ∀ w, quote' (w.moved m) = quote w) :
    h'.quotedInside quote' (v.moved m) = h.quotedInside quote v := by
  have hitems {r : Nat} (hr : v.cell? = some r) (f : List Text → Text) :
      f <$> (h'.items (m.ref r)).mapM quote' = f <$> (h.items r).mapM quote := by
    rw [hd.items, mapM_moved fun w hw => hquote r hr (Heap.lt_of_mem_items hw) w]
  cases v
  case list r => exact hitems rfl _
  case tuple r => exact hitems rfl _
  case set r =>
    show (if (h'.items (m.ref r)).isEmpty then _ else _) = (if (h.items r).isEmpty then _ else _)
    rw [hitems rfl, hd.items, List.isEmpty_map]
  case dict r =>
    show _ <$> (h'.entries (m.ref r)).mapM _ = _ <$> (h.entries r).mapM _
    rw [hd.entries]
    refine congrArg _ (mapM_moved fun e he => ?_)
    have hr := Heap.lt_of_mem_entries he
    rw [Prod.map_fst, Prod.map_snd, hquote r rfl hr, hquote r rfl hr]
  case exception c r =>
    show _ <$> (c.kept (h'.items (m.ref r))).mapM quote' = _ <$> (c.kept (h.items r)).mapM quote
    rw [hd.items, c.kept_moved]
    refine congrArg _ (mapM_moved fun w hw => ?_)
    exact hquote r rfl (Heap.lt_of_mem_items (ExceptionClass.mem_of_mem_kept hw)) w
  all_goals rfl

theorem quotedWithin {depth depth' : Nat} {active : List Ref} (v : Value)
    (hdepth : h.fresh active < depth) (hdepth' : h.fresh active < depth') :
    h'.quotedWithin depth' (active.map m.ref) (v.moved m) = h.quotedWithin depth active v := by
  induction depth generalizing depth' active v with
  | zero => cases hdepth
  | succ depth ih =>
    obtain _ | depth' := depth'
    · cases hdepth'
    rw [Heap.quotedWithin, Heap.quotedWithin, Value.cell?_moved, Value.quotedPlain_moved,
      Value.dots_moved]
    cases hcell : v.cell? with
    | none => rfl
    | some r =>
      rw [Option.map_some]
      by_cases ha : r ∈ active
      · simp [ha]
      · dsimp only
        rw [if_neg (fun h => ha (ref_mem_map.mp h)), if_neg ha]
        refine hd.quotedInside v fun s hs hr w => ?_
        obtain rfl : r = s := Option.some.inj (hcell.symm.trans hs)
        have hfresh := Heap.fresh_cons_lt hr ha
        have hinside : h.fresh (r :: active) < depth := by omega
        have hinside' : h.fresh (r :: active) < depth' := by omega
        exact ih w hinside hinside'

/-- A value that leads to where its cells have gone is quoted as it was. -/
theorem quoted (v : Value) : h'.quoted (v.moved m) = h.quoted v :=
  hd.quotedWithin v hd.fresh_lt.1 hd.fresh_lt.2

theorem argumentsText {text text' : Value → Except TooManyDigits Text} (c : ExceptionClass)
    (vs : List Value) (htext : ∀ v ∈ vs, text' (v.moved m) = text v) :
    h'.argumentsText text' c (vs.map (Value.moved m)) = h.argumentsText text c vs := by
  have hquoted (vs : List Value) : (vs.map (Value.moved m)).mapM h'.quoted = vs.mapM h.quoted :=
    mapM_moved fun v _ => hd.quoted v
  unfold Heap.argumentsText
  rw [codecText?_moved]
  cases codecText? c.family vs with
  | some t => rfl
  | none =>
    match vs with
    | [] => rfl
    | [v] => exact htext v List.mem_cons_self
    | number :: words :: rest =>
      have hnumber := htext number (by simp)
      have hwords := htext words (by simp)
      rw [c.files_moved, hquoted, hquoted, List.map_cons, List.map_cons]
      dsimp only
      rw [List.length_map, hnumber, hwords]

/-- An exception has the text that it had if its arguments have. -/
theorem exceptionText {text text' : Value → Except TooManyDigits Text} (c : ExceptionClass)
    (vs : List Value) (htext : ∀ v ∈ vs, text' (v.moved m) = text v) :
    h'.exceptionText text' c (vs.map (Value.moved m)) = h.exceptionText text c vs := by
  have helements (v : Value) : ((v.moved m).elements? h').getD [] =
      ((v.elements? h).getD []).map (Value.moved m) := by
    rw [hd.elements?]
    cases v.elements? h <;> rfl
  have harguments := hd.argumentsText c vs htext
  unfold Heap.exceptionText
  cases c.family
  case key =>
    match vs with
    | [v] => exact hd.quoted v
    | [] | _ :: _ :: _ => exact harguments
  case malformed =>
    match vs with
    | [] => rfl
    | [message] => exact htext message List.mem_cons_self
    | [message, details] =>
      have hmessage := htext message List.mem_cons_self
      show (do return (← text' (message.moved m)) ++ placeText _) = _
      rw [hmessage, helements, placeText_moved]
    | message :: _ :: _ :: _ => exact htext message List.mem_cons_self
  case group =>
    match vs with
    | [message, members] =>
      have hmessage := htext message List.mem_cons_self
      show (do
        let count := (((members.moved m).elements? h').getD []).length
        let plural := if count = 1 then "" else "s"
        return (← text' (message.moved m)) ++ s!" ({count} sub-exception{plural})".toList) = _
      rw [hmessage, helements, List.length_map]
    | [] | [_] | _ :: _ :: _ :: _ => exact harguments
  all_goals exact harguments

theorem displayWithin {depth depth' : Nat} {active : List Ref} (v : Value)
    (hdepth : h.fresh active < depth) (hdepth' : h.fresh active < depth') :
    h'.displayWithin depth' (active.map m.ref) (v.moved m) = h.displayWithin depth active v := by
  induction depth generalizing depth' active v with
  | zero => cases hdepth
  | succ depth ih =>
    obtain _ | depth' := depth'
    · cases hdepth'
    cases v
    case exception c r =>
      show h'.displayWithin (depth' + 1) _ (.exception c (m.ref r)) = _
      rw [Heap.displayWithin, Heap.displayWithin]
      by_cases ha : r ∈ active
      · rw [if_pos (ref_mem_map.mpr ha), if_pos ha]
        exact hd.quoted (.exception c r)
      · rw [if_neg (fun h => ha (ref_mem_map.mp h)), if_neg ha, hd.items]
        refine hd.exceptionText c _ fun w hw => ?_
        have hinside := Heap.fresh_lt_of_mem_items ha hw hdepth
        have hinside' := Heap.fresh_lt_of_mem_items ha hw hdepth'
        exact ih w hinside hinside'
    all_goals first | rfl | exact hd.quoted _

/-- A value that leads to where its cells have gone is displayed as it was. -/
theorem display (v : Value) : h'.display (v.moved m) = h.display v :=
  hd.displayWithin v hd.fresh_lt.1 hd.fresh_lt.2

/-! ### What is not told of moved values -/

theorem contents (v : Value) : h'.contents (v.moved m) = (h.contents v).map (Value.moved m) := by
  cases v
  case list r => exact hd.items r
  case tuple r => exact hd.items r
  case set r => exact hd.items r
  case exception c r => exact hd.items r
  case dict r =>
    show (h'.entries (m.ref r)).flatMap _ = ((h.entries r).flatMap _).map _
    rw [hd.entries, List.flatMap_map, List.map_flatMap]
    rfl
  all_goals rfl

theorem isUnordered (v : Value) : h'.isUnordered (v.moved m) = h.isUnordered v := by
  cases v
  case set r =>
    show decide (1 < (h'.items (m.ref r)).length) = decide (1 < (h.items r).length)
    rw [hd.items, List.length_map]
  all_goals rfl

/-- A value leads to values of a kind if it did, should the kind not hang on the place. -/
theorem leadsTo {isOf isOf' : Value → Bool} (hof : ∀ v : Value, isOf' (v.moved m) = isOf v)
    (depth : Nat) (active : List Ref) (v : Value) :
    h'.leadsTo isOf' depth (active.map m.ref) (v.moved m) = h.leadsTo isOf depth active v := by
  induction depth generalizing active v with
  | zero =>
    rw [Heap.leadsTo, Heap.leadsTo, hof, Value.cell?_moved]
    cases v.cell? <;> simp
  | succ depth ih =>
    rw [Heap.leadsTo, Heap.leadsTo, hof, Value.cell?_moved]
    cases v.cell? with
    | none => rfl
    | some r =>
      have hinside (w : Value) := ih (r :: active) w
      simp only [Option.map_some, ref_mem_map, hd.contents, List.any_map, ← List.map_cons,
        Function.comp_def, hinside]

theorem isUntold (v : Value) : h'.isUntold (v.moved m) = h.isUntold v :=
  hd.leadsTo (fun w => by rw [Value.isPlaced_moved, hd.isUnordered]) _ [] v

theorem hasIdentity (v : Value) : h'.hasIdentity (v.moved m) = h.hasIdentity v :=
  hd.leadsTo Value.isOnlyItself_moved _ [] v

end Relocation.Displaced

end LiveSections
