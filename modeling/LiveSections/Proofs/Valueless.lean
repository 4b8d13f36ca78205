import LiveSections.Yaml.Content
import Mathlib.Tactic.Common

/-!
# Scalars that stand for nothing

A node can be tagged or written like something that its text is not, as a day that no month has.
While a document becomes a value, merging changes its nodes, so what has no value is traced back to
the nodes as they were read.

- `Node.Reshaped`, `Graph.Reshaped`: merging changes entries, and makes texts of some keys.
- `Graph.flatten_reshapes`: **merging does nothing else.**
- `Graph.Valueless`: a document has a node that stands for nothing.
- `Build.Sound`: a step of building fails for want of a value only if the document has such a node.
- `load_noValue`: **so does the whole.**
-/

namespace LiveSections.Yaml

/-- The nodes of a text. -/
def nodes (t : Text) : Except Fault (Option (NodeId × Graph)) :=
  (Token.scan t).bind Graph.ofTokens

/-! ## What merging changes -/

/-- The text of a scalar. -/
def Node.text? : Node → Option Text
  | .scalar _ _ t => some t
  | _ => none

/-- A node has become another one by nothing but other entries, or by becoming a text. -/
structure Node.Reshaped (a b : Node) : Prop where
  kind_eq : b.kind = a.kind ∨ b.kind = .text
  text?_eq : b.text? = a.text?

namespace Node.Reshaped

theorem refl (a : Node) : a.Reshaped a := ⟨.inl rfl, rfl⟩

theorem trans {a b c : Node} (hab : a.Reshaped b) (hbc : b.Reshaped c) : a.Reshaped c := by
  refine ⟨?_, hbc.text?_eq.trans hab.text?_eq⟩
  rcases hbc.kind_eq with h | h
  · rw [h]
    exact hab.kind_eq
  · exact .inr h

theorem withEntries (es : List (NodeId × NodeId)) (a : Node) : a.Reshaped (a.withEntries es) := by
  cases a with
  | mapping tag _ => cases tag <;> exact ⟨.inl rfl, rfl⟩
  | _ => exact refl _

theorem asText (a : Node) : a.Reshaped a.asText := by
  have htext : Kind.ofTag textTag = .text := by decide
  cases a <;> exact ⟨.inr htext, rfl⟩

end Node.Reshaped

namespace Graph

/-- Each node of the second document is one of the first, maybe reshaped. -/
def Reshaped (g g' : Graph) : Prop :=
  ∀ n node', g'.node? n = some node' → ∃ node, g.node? n = some node ∧ node.Reshaped node'

theorem Reshaped.refl (g : Graph) : g.Reshaped g := fun _ node hn => ⟨node, hn, .refl node⟩

theorem Reshaped.trans {g g' g'' : Graph} (h : g.Reshaped g') (h' : g'.Reshaped g'') :
    g.Reshaped g'' := by
  intro n node'' hn
  obtain ⟨node', hn', hnode'⟩ := h' n node'' hn
  obtain ⟨node, hn, hnode⟩ := h n node' hn'
  exact ⟨node, hn, hnode.trans hnode'⟩

/-! ## Steps of merging -/

/-- Wherever a computation comes to its end, the nodes are those from before, maybe reshaped. -/
def Reshapes {α : Type} (x : Reading α) : Prop :=
  ∀ g a g', x.run g = .ok (a, g') → g.Reshaped g'

namespace Reshapes

variable {α β : Type}

theorem pure (a : α) : Reshapes (Pure.pure a) := by
  rintro g _ _ ⟨⟩
  exact .refl g

theorem throw (f : Fault) : Reshapes (MonadExcept.throw f : Reading α) := nofun

theorem get : Reshapes (getThe Graph) := by
  rintro g _ _ ⟨⟩
  exact .refl g

theorem bind {x : Reading α} {f : α → Reading β} (hx : Reshapes x) (hf : ∀ a, Reshapes (f a)) :
    Reshapes (x >>= f) := by
  intro g b g'' h
  rw [StateT.run_bind] at h
  cases hr : x.run g with
  | error e =>
    rw [hr] at h
    cases h
  | ok r =>
    rw [hr] at h
    exact (hx g r.1 r.2 hr).trans (hf r.1 r.2 b g'' h)

theorem mapM {f : α → Reading β} (hf : ∀ a, Reshapes (f a)) (l : List α) :
    Reshapes (l.mapM f) := by
  induction l with
  | nil => exact pure _
  | cons a l ih =>
    rw [List.mapM_cons]
    exact (hf a).bind fun _ => ih.bind fun _ => pure _

theorem forM {f : α → Reading PUnit} (hf : ∀ a, Reshapes (f a)) (l : List α) :
    Reshapes (l.forM f) := by
  induction l with
  | nil => exact pure _
  | cons a l ih => exact (hf a).bind fun _ => ih

end Reshapes

theorem reshaped_set {g : Graph} {n : NodeId} {node node' : Node} (hn : g.node? n = some node)
    (hnode : node.Reshaped node') :
    g.Reshaped { g with nodes := g.nodes.setIfInBounds n node' } := by
  intro m found hm
  by_cases heq : n = m
  · subst heq
    have hbound : n < g.nodes.size := (Array.getElem?_eq_some_iff.mp hn).1
    have hfound : found = node' := by
      simpa [node?, hbound, eq_comm] using hm
    exact ⟨node, hn, hfound ▸ hnode⟩
  · refine ⟨found, ?_, .refl found⟩
    simpa [node?, heq] using hm

theorem alter_reshapes (n : NodeId) {f : Node → Node} (hf : ∀ node : Node, node.Reshaped (f node)) :
    Reshapes (alter n f) := by
  intro g a g' h
  rw [run_alter] at h
  cases hn : g.node? n with
  | none =>
    rw [hn] at h
    cases h
    exact .refl g
  | some node =>
    rw [hn] at h
    cases h
    exact reshaped_set hn (hf node)

theorem takeMerge_reshapes (n : NodeId) : Reshapes (takeMerge n) := by
  refine .bind .get fun g => ?_
  dsimp only
  split
  · exact .pure _
  · exact (alter_reshapes n (Node.Reshaped.withEntries _)).bind fun _ => .pure _

theorem mergedFrom_reshapes {flatten : NodeId → Reading Unit} (hf : ∀ n, Reshapes (flatten n))
    (n : NodeId) : Reshapes (mergedFrom flatten n) := by
  have hone (n : NodeId) : Reshapes (do flatten n; return (← getThe Graph).entries n) :=
    (hf n).bind fun _ => Reshapes.get.bind fun _ => .pure _
  refine .bind .get fun g => ?_
  split
  · exact hone n
  · refine (Reshapes.mapM (fun item => ?_) _).bind fun _ => .pure _
    refine .bind .get fun g => ?_
    split
    · exact hone item
    · exact .throw _
  · exact .throw _

theorem finish_reshapes (merged : List (NodeId × NodeId)) (n : NodeId) :
    Reshapes (finish merged n) := by
  refine .bind .get fun g => ?_
  refine (Reshapes.forM (fun e => ?_) _).bind fun _ =>
    alter_reshapes n (Node.Reshaped.withEntries _)
  split
  · exact alter_reshapes e.1 Node.Reshaped.asText
  · exact .pure _

theorem flattenWithin_reshapes (depth : Nat) (merged : List (NodeId × NodeId)) (n : NodeId) :
    Reshapes (flattenWithin depth merged n) := by
  induction depth generalizing merged n with
  | zero => exact .pure _
  | succ depth ih =>
    refine (takeMerge_reshapes n).bind fun source => ?_
    cases source with
    | none => exact finish_reshapes merged n
    | some source =>
      exact (mergedFrom_reshapes (ih []) source).bind fun more => ih (merged ++ more) n

/-- **Merging changes entries, and makes texts of some keys.** -/
theorem flatten_reshapes (n : NodeId) : Reshapes (flatten n) := by
  refine .bind .get fun g => ?_
  split
  · exact .pure _
  · exact flattenWithin_reshapes _ [] n

/-! ## Nodes without a value -/

/-- A document has a node that stands for nothing of its kind. -/
inductive Valueless (g : Graph) : ValueFault → Prop where
  | scalar {n : NodeId} {node : Node} {t : Text} {f : ValueFault} (hn : g.node? n = some node)
      (ht : node.text? = some t) (hv : scalarValue node.kind t = .error (.noValue f)) :
      g.Valueless f
  /-- A collection has a scalar for its default. -/
  | default {n m : NodeId} {node source : Node} {t : Text} {f : ValueFault}
      (hn : g.node? n = some node) (hnode : node.text? = none) (hm : g.node? m = some source)
      (ht : source.text? = some t) (hv : scalarValue node.kind t = .error (.noValue f)) :
      g.Valueless f
  /-- A collection is tagged as a time. -/
  | timestamp {n : NodeId} {node : Node} (hn : g.node? n = some node) (hnode : node.text? = none)
      (hk : node.kind = .timestamp) : g.Valueless .noScalar

/-- The text of a node is that of a scalar, its own if it is one. -/
theorem exists_of_textWithin {g : Graph} {depth : Nat} {n : NodeId} {t : Text}
    (h : g.textWithin depth n = .ok t) :
    ∃ m source, g.node? m = some source ∧ source.text? = some t ∧
      ∀ node, g.node? n = some node → node.text?.isSome → m = n := by
  induction depth generalizing n with
  | zero => cases h
  | succ depth ih =>
    rw [textWithin] at h
    split at h
    · next hn =>
      cases h
      exact ⟨n, _, hn, rfl, fun _ _ _ => rfl⟩
    · next hn =>
      split at h
      · obtain ⟨m, source, hm, ht, -⟩ := ih h
        refine ⟨m, source, hm, ht, fun node hnode hsome => ?_⟩
        cases hnode.symm.trans hn
        cases hsome
      · cases h
    · cases h

/-- Only truth values, numbers and times are kinds that a text can fail to be of. -/
theorem kind_of_noValue {kind : Kind} {t : Text} {f : ValueFault}
    (h : scalarValue kind t = .error (.noValue f)) :
    kind = .bool ∨ kind = .int ∨ kind = .float ∨ kind = .timestamp := by
  cases kind
  case binary =>
    rw [scalarValue] at h
    cases hb : binaryValue t <;> rw [hb] at h <;> cases h
  all_goals first
    | cases h
    | simp

/-- What a node stands for nothing of is found in the document before it was reshaped. -/
theorem Reshaped.valueless {g g' : Graph} (hg : g.Reshaped g') {n : NodeId} {t : Text}
    {f : ValueFault} (ht : g'.text n = .ok t)
    (hv : scalarValue (g'.kind n) t = .error (.noValue f)) : g.Valueless f := by
  -- the node is there, and merging has not made a text of it: texts and nulls always have a value
  have hntext : g'.kind n ≠ .text := by
    rcases kind_of_noValue hv with h | h | h | h <;> simp [h]
  have hnnull : g'.kind n ≠ .null := by
    rcases kind_of_noValue hv with h | h | h | h <;> simp [h]
  obtain ⟨m, source', hm, hsource, hown⟩ := exists_of_textWithin ht
  obtain ⟨source, hm, hsource'⟩ := hg m source' hm
  rw [hsource'.text?_eq] at hsource
  cases hn : g'.node? n with
  | none =>
    rw [kind, hn] at hnnull
    exact absurd rfl hnnull
  | some node' =>
    obtain ⟨node, hn', hnode⟩ := hg n node' hn
    have hkind : g'.kind n = node'.kind := by
      rw [kind, hn]
      rfl
    rw [hkind] at hv hntext
    rw [hnode.kind_eq.resolve_right hntext] at hv
    -- a collection has the text of its default, which is another node
    cases hown' : node'.text? with
    | none => exact .default hn' (hnode.text?_eq.symm.trans hown') hm hsource hv
    | some own =>
      obtain rfl := hown node' hn (by rw [hown']; rfl)
      obtain rfl := Option.some.inj (hm.symm.trans hn')
      exact .scalar hm hsource hv

theorem Reshaped.valueless_timestamp {g g' : Graph} (hg : g.Reshaped g') {n : NodeId}
    (hk : g'.kind n = .timestamp) (hes : g'.entries n ≠ []) : g.Valueless .noScalar := by
  cases hn : g'.node? n with
  | none =>
    rw [entries, hn] at hes
    exact absurd rfl hes
  | some node' =>
    obtain ⟨node, hn', hnode⟩ := hg n node' hn
    rw [kind, hn] at hk
    rw [entries, hn] at hes
    have hkind : node'.kind = .timestamp := hk
    refine .timestamp hn' ?_ ?_
    · rw [← hnode.text?_eq]
      cases node' with
      | mapping => rfl
      | _ => exact absurd rfl hes
    · rw [← hkind]
      refine (hnode.kind_eq.resolve_right ?_).symm
      rw [hkind]
      nofun

end Graph

/-! ## Steps of building -/

namespace Build

variable {α β : Type} {g : Graph}

/-- The nodes are those of the document, maybe reshaped, and only one that stands for nothing makes
a computation fail for want of a value. -/
def SoundResult (g : Graph) (r : Except LoadFault (α × Building)) : Prop :=
  (∀ a b, r = .ok (a, b) → g.Reshaped b.graph) ∧ ∀ f, r = .error (.noValue f) → g.Valueless f

/-- From a reshaped document on, the result of a computation is sound. -/
def Sound (g : Graph) (x : Build α) : Prop :=
  ∀ b : Building, g.Reshaped b.graph → SoundResult g (x.run b)

namespace Sound

theorem pure (a : α) : Sound g (Pure.pure a : Build α) := by
  refine fun b hb => ⟨?_, nofun⟩
  rintro _ _ ⟨⟩
  exact hb

theorem malformed (f : Fault) : Sound g (malformed f : Build α) := fun _ _ => ⟨nofun, nofun⟩

theorem set {b : Building} (hb : g.Reshaped b.graph) :
    Sound g (MonadStateOf.set b : Build PUnit) := by
  refine fun _ _ => ⟨?_, nofun⟩
  rintro _ _ ⟨⟩
  exact hb

theorem bind_of {x : Build α} {f : α → Build β} (hx : Sound g x)
    (hf : ∀ b a b', g.Reshaped b.graph → x.run b = .ok (a, b') → Sound g (f a)) :
    Sound g (x >>= f) := by
  intro b hb
  obtain ⟨hok, herror⟩ := hx b hb
  rw [StateT.run_bind]
  cases hr : x.run b with
  | error e =>
    refine ⟨nofun, fun f h => herror f ?_⟩
    cases h
    exact hr
  | ok r => exact hf b r.1 r.2 hb hr r.2 (hok r.1 r.2 hr)

theorem bind {x : Build α} {f : α → Build β} (hx : Sound g x) (hf : ∀ a, Sound g (f a)) :
    Sound g (x >>= f) := hx.bind_of fun _ a _ _ _ => hf a

/-- What the state is may be used in what comes next. -/
theorem get_bind {f : Building → Build β} (hf : ∀ b, g.Reshaped b.graph → Sound g (f b)) :
    Sound g (getThe Building >>= f) := by
  intro b hb
  exact hf b hb b hb

theorem ofReading_bind {x : Except Fault α} {f : α → Build β} (hf : ∀ a, x = .ok a → Sound g (f a)) :
    Sound g (ofReading x >>= f) := by
  cases x with
  | error e => exact (malformed e).bind_of fun _ _ _ _ h => nomatch h
  | ok a => exact hf a rfl

theorem mapM {f : α → Build β} (hf : ∀ a, Sound g (f a)) (l : List α) : Sound g (l.mapM f) := by
  induction l with
  | nil => exact pure _
  | cons a l ih =>
    rw [List.mapM_cons]
    exact (hf a).bind fun _ => ih.bind fun _ => pure _

end Sound

theorem modify_sound {f : Building → Building}
    (hf : ∀ b : Building, g.Reshaped b.graph → g.Reshaped (f b).graph) :
    Sound g (modifyThe Building f) := by
  refine fun b hb => ⟨?_, nofun⟩
  rintro _ _ ⟨⟩
  exact hf b hb

theorem node?_sound (n : NodeId) : Sound g (node? n) := .get_bind fun _ _ => .pure _

theorem enter_sound (n : NodeId) (c : Cell) (value : Ref → Value) : Sound g (enter n c value) := by
  refine .get_bind fun b hb => ?_
  exact Sound.bind (Sound.set (b := { b with
    heap := (b.heap.alloc c).1, made := b.made.setIfInBounds n (some (value (b.heap.alloc c).2)),
    met := b.met.push n }) hb) fun _ => .pure _

theorem enterTuple_sound (items : List Value) : Sound g (enterTuple items) := by
  refine .get_bind fun b hb => ?_
  exact Sound.bind (Sound.set (b := { b with heap := (b.heap.alloc (.sequence items)).1 }) hb)
    fun _ => .pure _

theorem run_makeScalar (n : NodeId) (kind : Kind) (b : Building) :
    (makeScalar n kind).run b = match b.graph.text n with
      | .error f => .error (.malformed f)
      | .ok t =>
        if kind = .timestamp ∧ b.graph.entries n ≠ [] then .error (.noValue .noScalar)
        else (scalarValue kind t).map fun v =>
          (v, { b with made := b.made.setIfInBounds n (some v) }) := by
  cases ht : b.graph.text n with
  | error f =>
    simp [makeScalar, ht, ofReading, Build.malformed]
    rfl
  | ok t =>
    by_cases hc : kind = .timestamp ∧ b.graph.entries n ≠ []
    · simp [makeScalar, ht, ofReading, hc]
      rfl
    · cases hv : scalarValue kind t <;>
      · simp [makeScalar, ht, ofReading, hc, hv]
        rfl

/-- A scalar, or a collection that stands for one, is the only node that can stand for nothing. -/
theorem makeScalar_sound {b : Building} (hb : g.Reshaped b.graph) (n : NodeId) :
    SoundResult g ((makeScalar n (b.graph.kind n)).run b) := by
  rw [run_makeScalar]
  cases ht : b.graph.text n with
  | error f => exact ⟨nofun, nofun⟩
  | ok t =>
    dsimp only
    split
    · next hc =>
      refine ⟨nofun, ?_⟩
      rintro _ ⟨⟩
      exact hb.valueless_timestamp hc.1 hc.2
    · cases hv : scalarValue (b.graph.kind n) t with
      | error e =>
        refine ⟨nofun, ?_⟩
        rintro f ⟨⟩
        exact hb.valueless ht hv
      | ok v =>
        refine ⟨?_, nofun⟩
        rintro _ _ ⟨⟩
        exact hb

theorem make_sound (n : NodeId) : Sound g (make n) := by
  intro b hb
  rw [run_make]
  split
  · exact Sound.pure _ b hb
  · exact enter_sound n _ _ b hb
  · exact enter_sound n _ _ b hb
  · exact enter_sound n _ _ b hb
  · exact enter_sound n _ _ b hb
  · exact Sound.malformed _ b hb
  · exact Sound.malformed _ b hb
  · exact Sound.malformed _ b hb
  · exact makeScalar_sound hb n

theorem makeKey_sound (n : NodeId) : Sound g (makeKey n) := by
  refine (make_sound n).bind fun v => ?_
  split
  · exact (Sound.malformed _).bind fun _ => .pure _
  · exact .pure _

theorem fillEntries_sound (n : NodeId) : Sound g (fillEntries n) := by
  refine .get_bind fun b hb => ?_
  split
  · -- only here do nodes change while a value is built
    refine .ofReading_bind fun r hr => ?_
    have hflat := Graph.flatten_reshapes n b.graph r.1 r.2 hr
    refine (Sound.set (hb.trans hflat)).bind fun _ => ?_
    refine Sound.bind (Sound.mapM (fun e => ?_) _) fun _ => .pure _
    exact (makeKey_sound e.1).bind fun k => (make_sound e.2).bind fun v => .pure (k, v)
  · exact .malformed _

theorem fillSet_sound (n : NodeId) : Sound g (fillSet n) := by
  refine (fillEntries_sound n).bind fun es => ?_
  split
  · exact fun _ _ => ⟨nofun, nofun⟩
  · exact .pure _

theorem fillItems_sound (n : NodeId) : Sound g (fillItems n) := by
  refine (node?_sound n).bind fun node => ?_
  split
  · exact .pure _
  · exact .malformed _

theorem makePair_sound (n : NodeId) : Sound g (makePair n) := by
  refine (node?_sound n).bind fun node => ?_
  split
  · exact (make_sound _).bind fun _ => (make_sound _).bind fun _ => enterTuple_sound _
  · exact .malformed _

theorem content_sound (n : NodeId) (kind : Kind) : Sound g (content n kind) := by
  unfold content
  split
  · exact (fillEntries_sound n).bind fun _ => .pure _
  · exact (fillSet_sound n).bind fun _ => .pure _
  · exact (fillItems_sound n).bind fun _ => (Sound.mapM makePair_sound _).bind fun _ => .pure _
  · exact (fillItems_sound n).bind fun _ => (Sound.mapM make_sound _).bind fun _ => .pure _

theorem fill_sound (n : NodeId) : Sound g (fill n) := by
  refine .get_bind fun b hb => ?_
  refine (content_sound n _).bind fun c => ?_
  refine modify_sound fun b hb => ?_
  split <;> exact hb

theorem fillFrom_sound (i count : Nat) : Sound g (fillFrom i count) := by
  induction count generalizing i with
  | zero => exact .pure _
  | succ count ih =>
    refine .get_bind fun b hb => ?_
    split
    · exact .pure _
    · exact (fill_sound _).bind fun _ => ih (i + 1)

theorem root_sound (n : NodeId) : Sound g (root n) := by
  refine (make_sound n).bind fun v => ?_
  refine .get_bind fun b hb => ?_
  exact (fillFrom_sound 0 _).bind fun _ => .pure _

end Build

/-- A text whose nodes cannot be read has no value. -/
theorem load_of_nodes_error {t : Text} {e : Fault} (hn : nodes t = .error e) (h : Heap) :
    load t h = .error (.ofFault e) := by
  have hbind : ((Token.scan t).bind Graph.ofTokens) = .error e := hn
  rw [load, hbind]
  rfl

theorem load_of_nodes {t : Text} {n : NodeId} {g : Graph} (hn : nodes t = .ok (some (n, g)))
    (h : Heap) : load t h = ((Build.root n).run
      { graph := g, heap := h, made := Array.replicate g.nodes.size none }).map
        fun r => (r.2.heap, r.1) := by
  have hbind : ((Token.scan t).bind Graph.ofTokens) = .ok (some (n, g)) := hn
  rw [load, hbind]
  show ((Build.root n).run _ >>= fun r => pure (r.2.heap, r.1)) = _
  cases (Build.root n).run
      { graph := g, heap := h, made := Array.replicate g.nodes.size none } <;> rfl

theorem load_of_nodes_none {t : Text} (hn : nodes t = .ok none) (h : Heap) :
    load t h = .ok (h, .none) := by
  have hbind : ((Token.scan t).bind Graph.ofTokens) = .ok none := hn
  rw [load, hbind]
  rfl

/-- **A text has no value for want of a character that an escape stands for, or of a value that a
node stands for.** -/
theorem load_noValue {t : Text} {h : Heap} {f : ValueFault} (hload : load t h = .error (.noValue f)) :
    (∃ code, nodes t = .error (.noCodePoint code) ∧ f = .codePoint (Word.short.limit ≤ code)) ∨
      ∃ n g, nodes t = .ok (some (n, g)) ∧ g.Valueless f := by
  cases hn : nodes t with
  | error e =>
    rw [load_of_nodes_error hn] at hload
    cases e with
    | noCodePoint code =>
      cases hload
      exact .inl ⟨code, rfl, rfl⟩
    | _ => cases hload
  | ok found =>
    cases found with
    | none =>
      rw [load_of_nodes_none hn] at hload
      cases hload
    | some found =>
      obtain ⟨n, g⟩ := found
      obtain ⟨-, hsound⟩ := Build.root_sound (g := g) n
        { graph := g, heap := h, made := Array.replicate g.nodes.size none } (.refl g)
      rw [load_of_nodes hn] at hload
      refine .inr ⟨n, g, rfl, hsound f ?_⟩
      cases hr : (Build.root n).run
          { graph := g, heap := h, made := Array.replicate g.nodes.size none } with
      | error e =>
        rw [hr] at hload
        cases hload
        rfl
      | ok r =>
        rw [hr] at hload
        cases hload

end LiveSections.Yaml
