import TroffTable.Proofs.KeptText
import TroffTable.Proofs.NameCase
import TroffTable.Proofs.ParsedTrees
import TroffTable.Proofs.RelatedTexts

/-! Elements and trees of markup with tag names in another case. The elements are the same and stand in the
same places, and so are the trees but for tags that are left in the texts of cells. -/

namespace TroffTable

/-- Whether segments that stand in a relation have the same marks. -/
def KeepsMarks (P : Segment → Segment → Prop) : Prop :=
  ∀ x y, P x y → y.mark? = x.mark?

structure ClosedBody.Related (P : Segment → Segment → Prop) (closed closed' : ClosedBody) : Prop where
  body : List.Forall₂ P closed.body closed'.body
  closing : P (.tag closed.closing) (.tag closed'.closing)
  after : List.Forall₂ P closed.after closed'.after

inductive Chunk.Related (P : Segment → Segment → Prop) : Chunk → Chunk → Prop
  | loose {x y : Segment} (h : P x y) : Chunk.Related P (.loose x) (.loose y)
  | unpaired {t u : Tag} (h : P (.tag t) (.tag u)) : Chunk.Related P (.unpaired t) (.unpaired u)
  | element {t u v w : Tag} {body body' : List Segment} (opening : P (.tag t) (.tag u))
      (inner : List.Forall₂ P body body') (closing : P (.tag v) (.tag w)) :
      Chunk.Related P (.element t body v) (.element u body' w)

section Chunks

variable {P : Segment → Segment → Prop} {t u : Tag} {xs ys : List Segment}

theorem Tag.closes_eq (h : u.mark = t.mark) (name : List Char) : u.closes name = t.closes name := by
  rw [u.closes_eq_mark, h, t.closes_eq_mark]

theorem Tag.opens_eq (h : u.mark = t.mark) (name : List Char) : u.opens name = t.opens name := by
  rw [u.opens_eq_mark, h, t.opens_eq_mark]

theorem Tag.begins_eq (h : u.mark = t.mark) (wanted : Option (List Char)) :
    u.begins wanted = t.begins wanted := by
  have hname : u.name = t.name := congrArg TagMark.name h
  have hclosing : u.closing = t.closing := congrArg TagMark.closing h
  rw [Tag.begins, hname, hclosing, Tag.begins]

theorem chunks_of_fits {wanted : Option (List Char)} {x : Chunk} {rest : List Segment}
    (h : x.Fits wanted rest) : chunks wanted (x.segments ++ rest) = x :: chunks wanted rest :=
  (Outlines.cons h (outlines_chunks wanted rest)).eq_chunks

theorem ClosedBody.related_push {x y : Segment} (hxy : P x y) {a b : Option ClosedBody}
    (h : Option.Rel (ClosedBody.Related P) a b) :
    Option.Rel (ClosedBody.Related P) (a.map (.push x)) (b.map (.push y)) := by
  cases h with
  | none => exact .none
  | some h => exact .some ⟨.cons hxy h.body, h.closing, h.after⟩

variable (hP : KeepsMarks P)

include hP

theorem KeepsMarks.exists_tag {y : Segment} (h : P (.tag t) y) : ∃ u, y = .tag u ∧ u.mark = t.mark := by
  have hmark := hP _ _ h
  cases y with
  | char c => cases hmark
  | tag u => exact ⟨u, rfl, Option.some.inj hmark⟩

theorem KeepsMarks.exists_char {c : Char} {y : Segment} (h : P (.char c) y) : ∃ d, y = .char d := by
  have hmark := hP _ _ h
  cases y with
  | char d => exact ⟨d, rfl⟩
  | tag u => cases hmark

theorem related_splitAtClose (name : List Char) (depth : Nat) (h : List.Forall₂ P xs ys) :
    Option.Rel (ClosedBody.Related P) (splitAtClose name depth xs) (splitAtClose name depth ys) := by
  induction h generalizing depth with
  | nil => exact .none
  | @cons x y xs ys hxy h ih =>
    cases x with
    | char c =>
      obtain ⟨d, rfl⟩ := hP.exists_char hxy
      exact ClosedBody.related_push hxy (ih depth)
    | tag t =>
      obtain ⟨u, rfl, hmark⟩ := hP.exists_tag hxy
      unfold splitAtClose
      rw [Tag.closes_eq hmark, Tag.opens_eq hmark]
      split
      · cases depth with
        | zero => exact .some ⟨.nil, hxy, h⟩
        | succ depth => exact ClosedBody.related_push hxy (ih depth)
      · exact ClosedBody.related_push hxy (ih _)

theorem related_split? (hmark : u.mark = t.mark) (h : List.Forall₂ P xs ys) :
    Option.Rel (ClosedBody.Related P) (t.split? xs) (u.split? ys) := by
  have hself : u.selfClosing = t.selfClosing := congrArg TagMark.selfClosing hmark
  have hname : u.name = t.name := congrArg TagMark.name hmark
  rw [Tag.split?, Tag.split?, hself, hname]
  split
  · exact .none
  · exact related_splitAtClose hP t.name 0 h

/-- The outlines of related segments are related chunk by chunk. -/
theorem related_chunks (wanted : Option (List Char)) (h : List.Forall₂ P xs ys) :
    List.Forall₂ (Chunk.Related P) (chunks wanted xs) (chunks wanted ys) := by
  fun_induction chunks wanted xs generalizing ys with
  | case1 =>
    obtain rfl := List.forall₂_nil_left_iff.mp h
    rw [chunks]
    exact .nil
  | case2 c rest ih =>
    obtain ⟨y, ys, hy, hys, rfl⟩ := List.forall₂_cons_left_iff.mp h
    obtain ⟨d, rfl⟩ := hP.exists_char hy
    rw [chunks]
    exact .cons (.loose hy) (ih hys)
  | case3 t rest hb closed hs ih =>
    obtain ⟨y, ys, hy, hys, rfl⟩ := List.forall₂_cons_left_iff.mp h
    obtain ⟨u, rfl, hmark⟩ := hP.exists_tag hy
    -- What closes the one tag closes the other, so what stands behind them is related as well.
    have hsplit := related_split? hP hmark hys
    rw [hs] at hsplit
    cases hu : u.split? ys with
    | none =>
      rw [hu] at hsplit
      cases hsplit
    | some closed' =>
      rw [hu] at hsplit
      cases hsplit with
      | some hclosed =>
        have hys' := u.split?_eq_append hu
        have hfits : (Chunk.element u closed'.body closed'.closing).Fits wanted closed'.after :=
          ⟨(Tag.begins_eq hmark wanted).trans hb, by rw [← hys', hu]⟩
        have hchunks := chunks_of_fits hfits
        rw [Chunk.segments, List.cons_append, List.append_assoc, List.singleton_append, ← hys'] at hchunks
        rw [hchunks]
        exact .cons (.element hy hclosed.body hclosed.closing) (ih hclosed.after)
  | case4 t rest hb hs ih =>
    obtain ⟨y, ys, hy, hys, rfl⟩ := List.forall₂_cons_left_iff.mp h
    obtain ⟨u, rfl, hmark⟩ := hP.exists_tag hy
    have hsplit := related_split? hP hmark hys
    rw [hs] at hsplit
    have hu : u.split? ys = none := by
      generalize u.split? ys = found at hsplit
      cases hsplit
      rfl
    have hfits : (Chunk.unpaired u).Fits wanted ys := ⟨(Tag.begins_eq hmark wanted).trans hb, hu⟩
    have hchunks : chunks wanted (.tag u :: ys) = .unpaired u :: chunks wanted ys := chunks_of_fits hfits
    rw [hchunks]
    exact .cons (.unpaired hy) (ih hys)
  | case5 t rest hb ih =>
    obtain ⟨y, ys, hy, hys, rfl⟩ := List.forall₂_cons_left_iff.mp h
    obtain ⟨u, rfl, hmark⟩ := hP.exists_tag hy
    have hfits : (Chunk.loose (.tag u)).Fits wanted ys := by
      rw [Chunk.Fits, Tag.begins_eq hmark wanted]
      exact Bool.eq_false_iff.mpr hb
    have hchunks : chunks wanted (.tag u :: ys) = .loose (.tag u) :: chunks wanted ys :=
      chunks_of_fits hfits
    rw [hchunks]
    exact .cons (.loose hy) (ih hys)

end Chunks

section Stripping

theorem keepsMarks_recased : KeepsMarks Segment.Recased := by
  rintro x y (c | ⟨mark, -⟩)
  · rfl
  · exact congrArg some mark

theorem recased_flatMap_flatten {inner : List Char → List Char} {cs ds : List Chunk}
    (h : List.Forall₂ (Chunk.Related Segment.Recased) cs ds)
    (hinner : ∀ opening body closing, .element opening body closing ∈ cs →
      ∀ body', Recased (spell body) body' → Recased (inner (spell body)) (inner body')) :
    Recased (cs.flatMap (Chunk.flatten inner)) (ds.flatMap (Chunk.flatten inner)) := by
  induction h with
  | nil => exact .nil
  | @cons x y cs ds hxy h ih =>
    have hrest := ih fun opening body closing hm =>
      hinner opening body closing (List.mem_cons_of_mem _ hm)
    rw [List.flatMap_cons, List.flatMap_cons]
    refine Recased.append ?_ hrest
    cases hxy with
    | loose h =>
      cases h with
      | char c => exact .refl _
      | tag mark source => exact source
    | unpaired h =>
      cases h with
      | tag mark source => exact source
    | element opening inner closing =>
      exact hinner _ _ _ List.mem_cons_self _ (Recased.of_segments inner)

/-- Stripping takes the same tags away whatever their case, round by round. -/
theorem recased_stripTags {s s' : List Char} (h : Recased s s') :
    Recased (stripTags s) (stripTags s') := by
  induction hn : s.length using Nat.strongRecOn generalizing s s' with
  | ind n ih =>
    subst hn
    have hchunks := related_chunks keepsMarks_recased none h.segments
    have honce : Recased (stripOnce s) (stripOnce s') := by
      refine recased_flatMap_flatten hchunks fun opening body closing hm body' hbody => ?_
      exact ih _ (length_body_lt hm) hbody rfl
    rw [stripTags_eq, stripTags_eq s', honce.length_eq, h.length_eq]
    split
    · next hlt => exact ih _ hlt honce rfl
    · exact honce

end Stripping

/-- Elements that stand in the same place, with bodies that differ at most in the case of tag names. -/
structure Element.Alike (e e' : Element) : Prop where
  name : e'.name = e.name
  attrList : e'.attrList = e.attrList
  start : e'.start = e.start
  stop : e'.stop = e.stop
  body : SameButNameCase e.body e'.body

section Elements

theorem keepsMarks_alike : KeepsMarks Segment.Alike := by
  rintro x y (c | h)
  · rfl
  · exact congrArg some h.mark_eq

theorem length_spell_of_alike {xs ys : List Segment} (h : List.Forall₂ Segment.Alike xs ys) :
    (spell ys).length = (spell xs).length := by
  induction h with
  | nil => rfl
  | cons hxy h ih =>
    rw [spell_cons, spell_cons, List.length_append, List.length_append, ih]
    cases hxy with
    | char c => rfl
    | tag h => rw [Segment.source, h.length_source, Segment.source]

theorem Chunk.Related.segments {P : Segment → Segment → Prop} {x y : Chunk} (h : x.Related P y) :
    List.Forall₂ P x.segments y.segments := by
  cases h with
  | loose h => exact .cons h .nil
  | unpaired h => exact .cons h .nil
  | element opening inner closing => exact .cons opening (List.rel_append inner (.cons closing .nil))

theorem length_source_of_alike {x y : Chunk} (h : x.Related Segment.Alike y) :
    y.source.length = x.source.length := by
  rw [← Chunk.spell_segments, ← Chunk.spell_segments, length_spell_of_alike h.segments]

theorem alike_elementsFrom {cs ds : List Chunk} (h : List.Forall₂ (Chunk.Related Segment.Alike) cs ds)
    (hbody : ∀ opening body closing, .element opening body closing ∈ cs → segments (spell body) = body)
    (start : Nat) : List.Forall₂ Element.Alike (elementsFrom start cs) (elementsFrom start ds) := by
  induction h generalizing start with
  | nil => exact .nil
  | @cons x y cs ds hxy h ih =>
    have hlen := length_source_of_alike hxy
    have hrest := ih (fun opening body closing hm => hbody opening body closing (List.mem_cons_of_mem _ hm))
      (start + x.source.length)
    cases hxy with
    | loose h | unpaired h =>
      rw [elementsFrom_of_none rfl, elementsFrom_of_none rfl, hlen]
      exact hrest
    | @element t u v w body body' opening inner closing =>
      cases opening with
      | tag htu =>
        rw [elementsFrom_of_some rfl, elementsFrom_of_some rfl, hlen]
        have hcut : segments (spell body) = body := hbody t body v List.mem_cons_self
        have hsame : SameButNameCase (spell body) (spell body') := ⟨body', hcut.symm ▸ inner, rfl⟩
        exact .cons ⟨htu.name_eq, congrArg trim htu.attrText, rfl, rfl, hsame⟩ hrest

theorem map_attrList_of_alike {es es' : List Element} (h : List.Forall₂ Element.Alike es es') :
    es'.map (·.attrList) = es.map (·.attrList) := by
  induction h with
  | nil => rfl
  | cons h hs ih => rw [List.map_cons, List.map_cons, ih, h.attrList]

theorem alike_elements {markup markup' : List Char} (h : SameButNameCase markup markup')
    (wanted : Option (List Char)) :
    List.Forall₂ Element.Alike (elements wanted markup) (elements wanted markup') :=
  alike_elementsFrom (related_chunks keepsMarks_alike wanted (sameButNameCase_iff.mp h))
    (fun _ _ _ hm => segments_spell_body hm) 0

end Elements

/-- Outcomes that are the same error, or values that stand in a relation. -/
inductive SameOutcome {ε α β : Type} (R : α → β → Prop) : Except ε α → Except ε β → Prop
  | ok {a : α} {b : β} (h : R a b) : SameOutcome R (.ok a) (.ok b)
  | error (e : ε) : SameOutcome R (.error e) (.error e)

section Outcomes

variable {ε α β γ δ : Type} {R : α → β → Prop} {S : γ → δ → Prop}

theorem SameOutcome.bind {x : Except ε α} {y : Except ε β} {f : α → Except ε γ} {g : β → Except ε δ}
    (h : SameOutcome R x y) (hf : ∀ a b, R a b → SameOutcome S (f a) (g b)) :
    SameOutcome S (x >>= f) (y >>= g) := by
  cases h with
  | ok h => exact hf _ _ h
  | error e => exact .error e

theorem SameOutcome.mapM {f : α → Except ε γ} {g : β → Except ε δ} {xs : List α} {ys : List β}
    (h : List.Forall₂ R xs ys) (hf : ∀ x ∈ xs, ∀ y, R x y → SameOutcome S (f x) (g y)) :
    SameOutcome (List.Forall₂ S) (xs.mapM f) (ys.mapM g) := by
  induction h with
  | nil => exact .ok .nil
  | @cons x y xs ys hxy h ih =>
    obtain ⟨hx, hxs⟩ := List.forall_mem_cons.mp hf
    rw [List.mapM_cons, List.mapM_cons]
    refine (hx y hxy).bind fun a b hab => (ih hxs).bind fun as bs habs => ?_
    exact .ok (.cons hab habs)

end Outcomes

theorem related_parse {markup markup' : List Char} (h : SameButNameCase markup markup')
    (tagName attrText : List Char) :
    SameOutcome (Node.Related Recased) (parse markup tagName attrText)
      (parse markup' tagName attrText) := by
  induction hn : markup.length using Nat.strongRecOn generalizing markup markup' tagName attrText with
  | ind n ih =>
    subst hn
    have hnodes : SameOutcome (List.Forall₂ (Node.Related Recased)) (parsedElements markup)
        (parsedElements markup') := by
      refine SameOutcome.mapM (alike_elements h none) fun e he e' halike => ?_
      rw [halike.name, halike.attrList]
      exact ih _ (Element.length_body_lt he) halike.body e.name e.attrList rfl
    rw [parse_eq, parse_eq]
    cases parseAttributes attrText with
    | error e => exact .error e
    | ok attributes =>
      change SameOutcome (Node.Related Recased) (if _ then _ else _) (if _ then _ else _)
      split
      · exact .ok (.node (fun _ => recased_stripTags h.recased) .nil)
      · exact hnodes.bind fun children children' hchildren => .ok (.node (fun _ => .nil) hchildren)

/-- The case of tag names makes no difference to the elements of a markup, all of them or those of one name,
nor to its tree, but for the tags that are left in the texts of cells. -/
theorem tagNameCase_keeps_structure {markup markup' : List Char} (h : SameButNameCase markup markup') :
    List.Forall₂ Element.Alike (elements none markup) (elements none markup') ∧
    (∀ name, List.Forall₂ Element.Alike (elementsNamed name markup) (elementsNamed name markup')) ∧
    ∀ tagName attrText, SameOutcome (Node.Related Recased) (parse markup tagName attrText)
      (parse markup' tagName attrText) :=
  ⟨alike_elements h none, fun name => alike_elements h (some (lower name)),
    fun tagName attrText => related_parse h tagName attrText⟩

/-- A table with a tag in a cell that nothing closes, and the same with all tag names in the other case. -/
def mixedCaseTable : List Char :=
  "<Table Id=X><tr><TD>a<Br><i>b</I></td></TR></tABLE>".toList

def otherCaseTable : List Char :=
  "<tABLE Id=X><TR><td>a<bR><I>b</i></TD></tr></Table>".toList

theorem tagNameCase_keeps_structure_mixedCaseTable :
    SameButNameCase mixedCaseTable otherCaseTable ∧
    (elementsNamed tableName otherCaseTable).map (·.attrList) = ["Id=X".toList] ∧
    ∃ tree tree', parse mixedCaseTable rootName [] = .ok tree ∧
      parse otherCaseTable rootName [] = .ok tree' ∧ tree.Related Recased tree' ∧
      tree.cellTexts = ["a<Br>b".toList] ∧ tree'.cellTexts = ["a<bR>b".toList] := by
  have hsame : SameButNameCase mixedCaseTable otherCaseTable := by decide +kernel
  have hlist : (elementsNamed tableName mixedCaseTable).map (·.attrList) = ["Id=X".toList] := by
    decide +kernel
  have htexts : (parse mixedCaseTable rootName []).map Node.cellTexts = .ok ["a<Br>b".toList] := by
    decide +kernel
  have htexts' : (parse otherCaseTable rootName []).map Node.cellTexts = .ok ["a<bR>b".toList] := by
    decide +kernel
  obtain ⟨-, hnamed, hparse⟩ := tagNameCase_keeps_structure hsame
  refine ⟨hsame, ?_, ?_⟩
  · rw [map_attrList_of_alike (hnamed tableName), hlist]
  · have houtcome := hparse rootName []
    cases htree : parse mixedCaseTable rootName [] with
    | error e =>
      rw [htree] at htexts
      cases htexts
    | ok tree =>
      cases htree' : parse otherCaseTable rootName [] with
      | error e =>
        rw [htree'] at htexts'
        cases htexts'
      | ok tree' =>
        rw [htree] at htexts houtcome
        rw [htree'] at htexts' houtcome
        obtain h | - := houtcome
        exact ⟨tree, tree', rfl, rfl, h, Except.ok.inj htexts, Except.ok.inj htexts'⟩

end TroffTable
