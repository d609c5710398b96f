import TroffTable.Proofs.JoinedDocuments
import TroffTable.Proofs.TextlessTrees

/-! Comments. Nothing sets the tags in a comment apart from those around it. A comment hides what is
written in it as far as no tag in it is paired, or in a cell, which has no elements in it, as far as
none is paired with a tag outside: it leaves the tree as it is, but for the texts. -/

namespace TroffTable

/-- Whether no segment of a run among others belongs to a pair of tags. -/
def Idle (before run after : List Segment) : Prop :=
  ∀ p ∈ tagPairs (before ++ (run ++ after)),
    (p.1 < before.length ∨ before.length + run.length ≤ p.1) ∧
      (p.2 < before.length ∨ before.length + run.length ≤ p.2)

/-- Whether no segment of a run among others is paired with one around the run. -/
def Apart (before run after : List Segment) : Prop :=
  ∀ p ∈ tagPairs (before ++ (run ++ after)),
    (p.1 < before.length ∨ before.length + run.length ≤ p.1) ↔
      (p.2 < before.length ∨ before.length + run.length ≤ p.2)

/-- Whether the place between two runs of segments is in the text of a cell. -/
def inCell (before after : List Segment) : Bool :=
  match before with
  | [] => false
  | .char _ :: ys => inCell ys after
  | .tag t :: ys =>
    if t.closing then inCell ys after
    else
      match t.split? (ys ++ after) with
      | none => inCell ys after
      | some closed =>
        if closed.body.length < ys.length then inCell (ys.drop (closed.body.length + 1)) after
        else (roleOfName (lower t.name)).isCell || inCell ys (closed.body.drop ys.length)
termination_by before.length
decreasing_by all_goals simp only [List.length_cons, List.length_drop]; omega

instance (before run after : List Segment) : Decidable (Idle before run after) :=
  List.decidableBAll _ _

instance (before run after : List Segment) : Decidable (Apart before run after) :=
  List.decidableBAll _ _

section Searches

variable {name : List Char} {depth : Nat} {xs : List Segment}

theorem splitAtClose_eq_none_iff :
    splitAtClose name depth xs = none ↔ ∃ rest, openAfter name depth xs = some rest := by
  constructor
  · intro h
    induction xs generalizing depth with
    | nil => exact ⟨depth, rfl⟩
    | cons x xs ih =>
      cases hx : x.pass name depth with
      | some next =>
        rw [splitAtClose_of_pass hx, Option.map_eq_none_iff] at h
        obtain ⟨rest, hrest⟩ := ih h
        exact ⟨rest, by rw [openAfter, hx, Option.bind_some, hrest]⟩
      | none =>
        obtain ⟨rfl, hc⟩ := Segment.pass_eq_none_iff.mp hx
        cases x with
        | char c => cases hc
        | tag t =>
          rw [splitAtClose, if_pos (show t.closes name = true from hc)] at h
          cases h
  · rintro ⟨rest, h⟩
    have happend := splitAtClose_append h []
    rwa [List.append_nil] at happend

/-- What nothing closes is not closed either if there is more to be closed in front of it. -/
theorem splitAtClose_eq_none_of_zero (h : splitAtClose name 0 xs = none) (depth : Nat) :
    splitAtClose name depth xs = none := by
  obtain ⟨rest, hrest⟩ := splitAtClose_eq_none_iff.mp h
  have hmore := openAfter_add hrest depth
  rw [Nat.zero_add] at hmore
  exact splitAtClose_eq_none_iff.mpr ⟨_, hmore⟩

theorem OpenAt.append {i rest : Nat} {ys : List Segment} (h : OpenAt name xs i depth)
    (hys : TroffTable.openAfter name depth ys = some rest) : OpenAt name (xs ++ ys) i rest where
  opens := by
    rw [List.getElem?_append_left (lt_length_of_any h.opens)]
    exact h.opens
  openAfter := by
    rw [List.drop_append_of_le_length (lt_length_of_any h.opens), openAfter_append, h.openAfter,
      Option.bind_some, hys]

/-- Where a tag is open there is one that would be closed first. -/
theorem OpenAt.exists_first {i : Nat} (h : OpenAt name xs i depth) : ∃ i, OpenAt name xs i 0 := by
  have hwaiting := (waiting_tagWalk xs name i depth).mpr h
  have hlen := (List.getElem?_eq_some_iff.mp hwaiting).1
  exact ⟨_, (waiting_tagWalk xs name _ 0).mp
    (List.getElem?_eq_getElem (Nat.lt_of_le_of_lt (Nat.zero_le _) hlen))⟩

theorem exists_openAt {rest j : Nat} (h : openAfter name 0 xs = some rest) (hj : j < rest) :
    ∃ i, OpenAt name xs i j := by
  induction xs using List.reverseRecOn generalizing rest j with
  | nil =>
    obtain rfl := Option.some.inj h
    exact absurd hj (Nat.not_lt_zero _)
  | append_singleton xs x ih =>
    rw [openAfter_concat] at h
    obtain ⟨next, hxs, hx⟩ := Option.bind_eq_some_iff.mp h
    have hpass := Segment.pass_eq_some_iff.mp hx
    simp only [openAt_concat_iff, Segment.pass_eq_some_iff]
    cases ho : x.opens name with
    | true =>
      have hc : x.closes name = false := by
        by_contra hc
        rw [Segment.opens_of_closes (Bool.not_eq_false _ ▸ hc)] at ho
        cases ho
      cases j with
      | zero => exact ⟨_, .inl ⟨rfl, rfl, rfl⟩⟩
      | succ j =>
        obtain ⟨i, hi⟩ := ih hxs (j := j) (by simp [ho, hc] at hpass; omega)
        exact ⟨i, .inr ⟨j, hi, by simp [hc]⟩⟩
    | false =>
      obtain ⟨i, hi⟩ := ih hxs (j := j + (x.closes name).toNat) (by simp [ho] at hpass; omega)
      exact ⟨i, .inr ⟨_, hi, by simp⟩⟩

/-- A closing tag is paired with the open tag that is to be closed first. -/
theorem OpenAt.pairedAt {i : Nat} {x : Segment} (h : OpenAt name xs i 0)
    (hx : x.closes name = true) (after : List Segment) :
    PairedAt name (xs ++ x :: after) i xs.length := by
  have hpair := pairedAt_concat_iff.mpr (.inr ⟨rfl, hx, h⟩)
  have hwhole : PairedAt name ([] ++ (xs ++ [x] ++ after)) (0 + i) (0 + xs.length) :=
    (pairedAt_infix_iff.mp hpair).2
  simpa using hwhole

end Searches

section Runs

variable {before run after : List Segment} {x : Segment}

theorem mem_tagPairs_of_infix {xs : List Segment} {p : Nat × Nat} (h : p ∈ tagPairs xs)
    (outer outer' : List Segment) :
    (outer.length + p.1, outer.length + p.2) ∈ tagPairs (outer ++ (xs ++ outer')) := by
  obtain ⟨name, hpair⟩ := (mem_tagPairs_iff xs p.1 p.2).mp h
  exact (mem_tagPairs_iff _ _ _).mpr ⟨name, (pairedAt_infix_iff.mp hpair).2⟩

theorem Idle.of_infix (outer outer' : List Segment)
    (h : Idle (outer ++ before) run (after ++ outer')) : Idle before run after := by
  intro p hp
  have hh := mem_tagPairs_of_infix hp outer outer'
  have hidle := h _ (by simpa using hh)
  simp only [List.length_append] at hidle
  omega

theorem Apart.of_infix (outer outer' : List Segment)
    (h : Apart (outer ++ before) run (after ++ outer')) : Apart before run after := by
  intro p hp
  have hh := mem_tagPairs_of_infix hp outer outer'
  have hapart := h _ (by simpa using hh)
  simp only [List.length_append] at hapart
  omega

theorem Idle.apart (h : Idle before run after) : Apart before run after :=
  fun p hp => iff_of_true (h p hp).1 (h p hp).2

theorem Idle.tail (h : Idle before (x :: run) after) : Idle (before ++ [x]) run after := by
  intro p hp
  have hcut : before ++ [x] ++ (run ++ after) = before ++ (x :: run ++ after) := by simp
  rw [hcut] at hp
  have hidle := h p hp
  simp only [List.length_cons, List.length_append, List.length_nil] at hidle ⊢
  omega

theorem Idle.split?_eq_none {t : Tag} (h : Idle before (.tag t :: run) after)
    (ht : t.closing = false) : t.split? (run ++ after) = none := by
  by_contra hs
  obtain ⟨closed, hs⟩ := Option.ne_none_iff_exists'.mp hs
  have hpair : PairedAt t.name (before ++ .tag t :: (run ++ after)) before.length _ :=
    (pairedAt_iff_split? ht).mpr (congrArg _ hs)
  have hidle := h _ ((mem_tagPairs_iff _ _ _).mpr ⟨_, hpair⟩)
  simp only [List.length_cons] at hidle
  omega

/-- A run apart closes nothing that is open in front of it. -/
theorem Apart.exists_openAfter {name : List Char} {i depth : Nat} (h : Apart before run after)
    (ho : OpenAt name before i depth) : ∃ more, openAfter name 0 run = some more := by
  rw [← splitAtClose_eq_none_iff]
  by_contra hs
  obtain ⟨closed, hs⟩ := Option.ne_none_iff_exists'.mp hs
  obtain ⟨first, hfirst⟩ := ho.exists_first
  have hpair := (hfirst.append (openAfter_of_splitAtClose hs)).pairedAt
    (x := .tag closed.closing) (closes_of_splitAtClose hs) (closed.after ++ after)
  have hcut := splitAtClose_eq_append hs
  have hwhole : before ++ closed.body ++ .tag closed.closing :: (closed.after ++ after) =
      before ++ (run ++ after) := by simp [hcut]
  rw [hwhole] at hpair
  have hapart := h _ ((mem_tagPairs_iff _ _ _).mpr ⟨name, hpair⟩)
  have hlen := congrArg List.length hcut
  have hbefore := lt_length_of_any hfirst.opens
  simp only [List.length_append, List.length_cons] at hapart hlen
  omega

/-- What a run apart leaves open is not closed behind it. -/
theorem Apart.splitAtClose_eq_none {name : List Char} {more : Nat} (h : Apart before run after)
    (ho : openAfter name 0 run = some more) (hmore : 0 < more) : splitAtClose name 0 after = none := by
  by_contra hs
  obtain ⟨closed, hs⟩ := Option.ne_none_iff_exists'.mp hs
  obtain ⟨i, hi⟩ := exists_openAt ho hmore
  have hpair := (hi.append (openAfter_of_splitAtClose hs)).pairedAt
    (x := .tag closed.closing) (closes_of_splitAtClose hs) closed.after
  have hwhole : run ++ closed.body ++ .tag closed.closing :: closed.after = run ++ after := by
    simp [splitAtClose_eq_append hs]
  rw [hwhole] at hpair
  have hrest : Apart [] run after :=
    Apart.of_infix before [] (by simpa using h)
  have hapart := hrest _ ((mem_tagPairs_iff _ _ _).mpr ⟨name, hpair⟩)
  have hrun := lt_length_of_any hi.opens
  simp only [List.length_append, List.length_nil] at hapart
  omega

/-- The search for what closes an open tag is not affected by a run apart. -/
theorem Apart.splitAtClose_run {name : List Char} {i depth : Nat} (h : Apart before run after)
    (ho : OpenAt name before i depth) :
    splitAtClose name depth (run ++ after) =
      (splitAtClose name depth after).map (.prepend run) := by
  obtain ⟨more, hmore⟩ := h.exists_openAfter ho
  have hadd := openAfter_add hmore depth
  rw [Nat.zero_add] at hadd
  rw [splitAtClose_append hadd]
  rcases Nat.eq_zero_or_pos more with rfl | hpos
  · rw [Nat.zero_add]
  · -- Nothing closes what the run leaves open, and so nothing closes what is open around it.
    have hnone := h.splitAtClose_eq_none hmore hpos
    rw [splitAtClose_eq_none_of_zero hnone, splitAtClose_eq_none_of_zero hnone]

/-- What closes a tag in front of an run apart does so without the run: it stands in front of the run,
or behind it. -/
theorem Apart.split?_cases {t : Tag} {ys : List Segment} (h : Apart (.tag t :: ys) run after)
    (ht : t.closing = false) :
    (t.split? (ys ++ (run ++ after)) = none ∧ t.split? (ys ++ after) = none) ∨
    (∃ closed : ClosedBody, ys = closed.body ++ .tag closed.closing :: closed.after ∧
      ∀ rest, t.split? (ys ++ rest) = some { closed with after := closed.after ++ rest }) ∨
    (∃ closed : ClosedBody, after = closed.body ++ .tag closed.closing :: closed.after ∧
      t.split? (ys ++ (run ++ after)) = some (closed.prepend (ys ++ run)) ∧
      t.split? (ys ++ after) = some (closed.prepend ys)) := by
  cases hs : t.selfClosing with
  | true => exact .inl ⟨if_pos hs, if_pos hs⟩
  | false =>
    have hsplit (xs : List Segment) : t.split? xs = splitAtClose t.name 0 xs := if_neg (by simp [hs])
    simp only [hsplit]
    cases hd : openAfter t.name 0 ys with
    | none =>
      obtain ⟨closed, hclosed⟩ : ∃ closed, splitAtClose t.name 0 ys = some closed := by
        refine Option.ne_none_iff_exists'.mp fun hnone => ?_
        obtain ⟨rest, hrest⟩ := splitAtClose_eq_none_iff.mp hnone
        cases hd.symm.trans hrest
      have hcut := splitAtClose_eq_append hclosed
      refine .inr (.inl ⟨closed, hcut, fun rest => ?_⟩)
      rw [hcut]
      simpa using splitAtClose_of_after hclosed (closed.after ++ rest)
    | some depth =>
      have hopen : OpenAt t.name (.tag t :: ys) 0 depth := ⟨by simp [Tag.opens, ht, hs], hd⟩
      have hwith := splitAtClose_append hd (run ++ after)
      have hwithout := splitAtClose_append hd after
      rw [h.splitAtClose_run hopen] at hwith
      cases hclosed : splitAtClose t.name depth after with
      | none =>
        rw [hclosed] at hwith hwithout
        exact .inl ⟨hwith, hwithout⟩
      | some closed =>
        rw [hclosed] at hwith hwithout
        refine .inr (.inr ⟨closed, splitAtClose_eq_append hclosed, hwith.trans ?_, hwithout⟩)
        simp [ClosedBody.prepend]

theorem textlessNodes_idle_front (h : Idle [] run after) :
    textlessNodes (run ++ after) = textlessNodes after := by
  induction run with
  | nil => rfl
  | cons x run ih =>
    have hrest : Idle [] run after := Idle.of_infix [x] [] (by simpa using h.tail)
    rw [List.cons_append, ← ih hrest]
    cases x with
    | char c => exact textlessNodes_char c _
    | tag t =>
      cases ht : t.closing with
      | true => exact textlessNodes_closing ht _
      | false => exact textlessNodes_unpaired (h.split?_eq_none ht)

theorem inCell_char (c : Char) (ys after : List Segment) :
    inCell (.char c :: ys) after = inCell ys after := by
  rw [inCell]

theorem inCell_closing {t : Tag} (ht : t.closing = true) (ys after : List Segment) :
    inCell (.tag t :: ys) after = inCell ys after := by
  rw [inCell, if_pos ht]

theorem inCell_unpaired {t : Tag} {ys : List Segment} (hs : t.split? (ys ++ after) = none) :
    inCell (.tag t :: ys) after = inCell ys after := by
  rw [inCell, hs]
  split <;> rfl

theorem inCell_behind {t : Tag} {body rest : List Segment} {closing : Tag} (ht : t.closing = false)
    (hs : t.split? (body ++ .tag closing :: rest ++ after) =
      some { body, closing, after := rest ++ after }) :
    inCell (.tag t :: (body ++ .tag closing :: rest)) after = inCell rest after := by
  rw [inCell, if_neg (by simp [ht]), hs]
  simp

theorem inCell_inside {t closing : Tag} {ys body rest : List Segment} (ht : t.closing = false)
    (hs : t.split? (ys ++ after) = some { body := ys ++ body, closing, after := rest }) :
    inCell (.tag t :: ys) after = ((roleOfName (lower t.name)).isCell || inCell ys body) := by
  rw [inCell, if_neg (by simp [ht]), hs]
  simp

theorem textlessNode_cell {name : List Char} (h : (roleOfName name).isCell = true)
    (attrText : List Char) (children children' : Except LongNumeral (List Node)) :
    textlessNode name attrText children = textlessNode name attrText children' := by
  simp only [textlessNode, h, if_true]

/-- A run can be left out if none of its segments is paired, and in the text of a cell if none is
paired with one around the run. -/
theorem textlessNodes_hidden
    (h : Idle before run after ∨ inCell before after = true ∧ Apart before run after) :
    textlessNodes (before ++ (run ++ after)) = textlessNodes (before ++ after) := by
  induction hn : (before ++ after).length using Nat.strongRecOn generalizing before after with
  | ind n ih =>
    subst hn
    cases before with
    | nil =>
      rcases h with h | ⟨hcell, -⟩
      · exact textlessNodes_idle_front h
      · rw [inCell] at hcell
        cases hcell
    | cons y ys =>
      have hapart : Apart (y :: ys) run after := h.elim Idle.apart And.right
      -- Leaving out the first segment leaves the place where it is.
      have hskip (hcell : inCell (y :: ys) after = inCell ys after) :
          textlessNodes (ys ++ (run ++ after)) = textlessNodes (ys ++ after) := by
        refine ih _ (by simp only [List.length_append, List.length_cons]; omega) ?_ rfl
        rw [hcell] at h
        exact h.imp (Idle.of_infix [y] [] <| by simpa using ·)
          (And.imp_right (Apart.of_infix [y] [] <| by simpa using ·))
      rw [List.cons_append, List.cons_append]
      cases y with
      | char c => rw [textlessNodes_char, textlessNodes_char, hskip (inCell_char ..)]
      | tag t =>
        cases ht : t.closing with
        | true =>
          rw [textlessNodes_closing ht, textlessNodes_closing ht, hskip (inCell_closing ht ..)]
        | false =>
          rcases hapart.split?_cases ht with ⟨hwith, hwithout⟩ | ⟨closed, rfl, hfound⟩ |
            ⟨closed, rfl, hwith, hwithout⟩
          · rw [textlessNodes_unpaired hwith, textlessNodes_unpaired hwithout,
              hskip (inCell_unpaired hwithout)]
          · -- The element ends in front of the run, and the run stands among its later siblings.
            have hrest : textlessNodes (closed.after ++ (run ++ after)) =
                textlessNodes (closed.after ++ after) := by
              refine ih _ (by simp; omega) ?_ rfl
              rw [inCell_behind ht (hfound _)] at h
              let element : List Segment := .tag t :: (closed.body ++ [.tag closed.closing])
              exact h.imp (Idle.of_infix element [] <| by simpa [element] using ·)
                (And.imp_right (Apart.of_infix element [] <| by simpa [element] using ·))
            rw [textlessNodes_element ht (hfound _), textlessNodes_element ht (hfound _)]
            simp only [hrest]
          · -- The run stands in the element.
            rw [textlessNodes_element ht hwith, textlessNodes_element ht hwithout]
            simp only [ClosedBody.prepend, List.append_assoc]
            cases hrole : (roleOfName (lower t.name)).isCell with
            | true => rw [textlessNode_cell hrole]
            | false =>
              have hbody : textlessNodes (ys ++ (run ++ closed.body)) =
                  textlessNodes (ys ++ closed.body) := by
                refine ih _ (by simp only [List.length_append, List.length_cons]; omega) ?_ rfl
                rw [inCell_inside ht hwithout, hrole, Bool.false_or] at h
                exact h.imp (Idle.of_infix [.tag t] (.tag closed.closing :: closed.after))
                  (And.imp_right (Apart.of_infix [.tag t] (.tag closed.closing :: closed.after)))
              rw [hbody]

end Runs

/-- A run without tags is idle. -/
theorem idle_of_no_tag {run : List Segment} (h : ∀ t, .tag t ∉ run) (before after : List Segment) :
    Idle before run after := by
  have houtside {p : Segment → Bool} {k : Nat} (hp : ∀ x, p x = true → ∃ t, x = .tag t)
      (hk : (before ++ (run ++ after))[k]?.any p = true) :
      k < before.length ∨ before.length + run.length ≤ k := by
    by_contra hin
    obtain ⟨x, hx, hpx, -⟩ := exists_of_any hk
    obtain ⟨t, rfl⟩ := hp x hpx
    rw [List.getElem?_append_right (by omega), List.getElem?_append_left (by omega)] at hx
    exact h t (List.mem_of_getElem? hx)
  intro p hp
  obtain ⟨name, hpair⟩ := (mem_tagPairs_iff _ p.1 p.2).mp hp
  refine ⟨houtside (fun x hx => ?_) hpair.opens, houtside (fun x hx => ?_) hpair.closes⟩
  all_goals
    cases x with
    | char c => cases hx
    | tag t => exact ⟨t, rfl⟩

section Seams

/-- No tag goes on behind a bracket that closes one. -/
theorem noTagAcross_of_bracket (s s' : List Char) : NoTagAcross (s ++ ['>']) s' := fun _ _ hb =>
  tag_beside_bracket (spell_segments _) (lawful_of_mem_segments (hb.subset (by simp))) hb

end Seams

def comment (text : List Char) : List Char :=
  "<!--".toList ++ (text ++ "-->".toList)

theorem segments_comment {a b c : List Char} (h : NoTagAcross a (comment c ++ b)) :
    segments (a ++ (comment c ++ b)) = segments a ++ (segments (comment c) ++ segments b) := by
  have hend : comment c = ("<!--".toList ++ (c ++ "--".toList)) ++ ['>'] := by simp [comment]
  have hseam : NoTagAcross (comment c) b := hend ▸ noTagAcross_of_bracket _ b
  rw [noTagAcross_iff.mp h, noTagAcross_iff.mp hseam]

/-- A comment in which no tag is paired leaves the tree as it is, but for the texts, wherever it
stands. In the text of a cell so does one in which no tag is paired with one outside. A comment that
consists of characters alone has no paired tag. -/
theorem parse_comment {a b c : List Char} (hseam : NoTagAcross a b)
    (hplace : NoTagAcross a (comment c ++ b)) :
    (Idle (segments a) (segments (comment c)) (segments b) ∨
        inCell (segments a) (segments b) = true ∧
          Apart (segments a) (segments (comment c)) (segments b) →
      ∀ tagName attrText,
        (parse (a ++ (comment c ++ b)) tagName attrText).map Node.withoutTexts =
          (parse (a ++ b) tagName attrText).map Node.withoutTexts) ∧
    (segments (comment c) = (comment c).map .char →
      Idle (segments a) (segments (comment c)) (segments b)) := by
  refine ⟨fun h tagName attrText => ?_, fun hchars => idle_of_no_tag (fun t => ?_) _ _⟩
  · rw [withoutTexts_parse_segments, withoutTexts_parse_segments, segments_comment hplace,
      noTagAcross_iff.mp hseam, textlessNodes_hidden h]
  · simp [hchars]

def remarkFront : List Char := "<table><tr><td>A".toList

/-- A comment with a tag that closes nothing, one that closes itself, and two that nothing closes. -/
def remark : List Char := " 1 < 2 </b><br/><i><u ".toList

/-- A comment with two elements, one in the other. -/
def markedRemark : List Char := " <b>see <i>B</i></b> ".toList

def remarkBack : List Char := "</td><td>B</td></tr></table>".toList

theorem parse_comment_remark :
    (NoTagAcross remarkFront remarkBack ∧ NoTagAcross remarkFront (comment remark ++ remarkBack) ∧
      Idle (segments remarkFront) (segments (comment remark)) (segments remarkBack)) ∧
    (parse (remarkFront ++ (comment remark ++ remarkBack)) rootName []).map Node.withoutTexts =
      (parse (remarkFront ++ remarkBack) rootName []).map Node.withoutTexts ∧
    (parse (remarkFront ++ (comment markedRemark ++ remarkBack)) rootName []).map
        Node.withoutTexts =
      (parse (remarkFront ++ remarkBack) rootName []).map Node.withoutTexts ∧
    Idle (segments remarkFront) (segments (comment " 1 < 2 ".toList)) (segments remarkBack) := by
  have hseam : NoTagAcross remarkFront remarkBack := by decide +kernel
  have hplace : NoTagAcross remarkFront (comment remark ++ remarkBack) := by decide +kernel
  have hplaceMarked : NoTagAcross remarkFront (comment markedRemark ++ remarkBack) := by
    decide +kernel
  have hplain : NoTagAcross remarkFront (comment " 1 < 2 ".toList ++ remarkBack) := by decide +kernel
  have hidle : Idle (segments remarkFront) (segments (comment remark)) (segments remarkBack) := by
    decide +kernel
  have hmarked : inCell (segments remarkFront) (segments remarkBack) = true ∧
      Apart (segments remarkFront) (segments (comment markedRemark)) (segments remarkBack) := by
    decide +kernel
  exact ⟨⟨hseam, hplace, hidle⟩, (parse_comment hseam hplace).1 (.inl hidle) rootName [],
    (parse_comment hseam hplaceMarked).1 (.inr hmarked) rootName [],
    (parse_comment hseam hplain).2 (by decide +kernel)⟩

/-- Whether a comment between two texts leaves the tree as it is, but for the texts, if no tag lies
across the place where it stands. -/
def HidesComment (a c b : List Char) : Prop :=
  ¬ "-->".toList <:+: c → NoTagAcross a b → NoTagAcross a (comment c ++ b) →
    (parse (a ++ (comment c ++ b)) rootName []).map Node.withoutTexts =
      (parse (a ++ b) rootName []).map Node.withoutTexts

/-- Tags in a comment form an element, and one of them closes an element around it. -/
theorem not_hidesComment :
    ¬ HidesComment [] "<b></b>".toList [] ∧
      ¬ HidesComment "<p><b>".toList "</b>".toList "<i></i></b></p>".toList := by
  constructor
  · intro h
    have hh := h (by decide +kernel) (by decide +kernel) (by decide +kernel)
    exact absurd hh (by decide +kernel)
  · intro h
    have hh := h (by decide +kernel) (by decide +kernel) (by decide +kernel)
    exact absurd hh (by decide +kernel)

end TroffTable
