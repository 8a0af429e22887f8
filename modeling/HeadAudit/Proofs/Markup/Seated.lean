import HeadAudit.Markup.Parser
import HeadAudit.Proofs.Markup.Headed

namespace HeadAudit.Markup.Builder

open List Draft

/-- The root `r` and its head `h` are where they were and stay there: nothing goes in front of the
root, and no formatting that stands around either is moved out of its place. A late element stands
open only for the next one to go into it. -/
structure Guards (late : Option Nat) (r h : Nat) (draft : Draft) (opened : List Opened)
    (marks : List Mark) : Prop where
  headed : Headed r h draft
  framed : ∀ o ∈ opened, o.isHtml "table" ∨ o.isHtml "body" →
    draft.IsElement o.id ∧ o.id ≠ r ∧ o.id ≠ h
  marked : ∀ id tag, .element id tag ∈ marks → id ≠ r ∧ id ≠ h
  layered : opened.Pairwise fun inner outer => late ≠ some inner.id → late ≠ some outer.id →
    inner.id = r ∨ inner.id = h → outer.id = r ∨ outer.id = h
  nonzero : ∀ o ∈ opened, late ≠ some o.id → o.id ≠ 0

abbrev Seated (late : Option Nat) (r h : Nat) (b : Builder) : Prop :=
  Guards late r h b.draft b.opened b.marks

variable {late : Option Nat} {r h id : Nat} {d e : Draft} {opened opened' : List Opened}
  {marks marks' : List Mark} {b : Builder} {o : Opened} {space : Space} {tag : Tag} {s : String}

namespace Guards

theorem sublist (hs : Guards late r h d opened marks) (hsub : opened' <+ opened) :
    Guards late r h d opened' marks where
  headed := hs.headed
  framed := fun o ho => hs.framed o (hsub.subset ho)
  marked := hs.marked
  layered := hs.layered.sublist hsub
  nonzero := fun o ho => hs.nonzero o (hsub.subset ho)

theorem remark (hs : Guards late r h d opened marks)
    (hm : ∀ id tag, .element id tag ∈ marks' → id ≠ r ∧ id ≠ h) :
    Guards late r h d opened marks' :=
  { hs with marked := hm }

theorem keeps (hs : Guards late r h d opened marks) (hk : Keeps r h d e) :
    Guards late r h e opened marks :=
  { hs with
    headed := hk.headed hs.headed
    framed := fun o ho hf => (hs.framed o ho hf).imp_left hk.isElement }

theorem ne_zero (hs : Guards late r h d opened marks) (hid : d.IsElement id) : id ≠ 0 := by
  rintro rfl
  obtain ⟨tag, ht⟩ := hid
  exact absurd (ht.symm.trans hs.headed.document) (by simp)

theorem push (hs : Guards late r h d opened marks) (he : d.IsElement o.id) (hr : o.id ≠ r)
    (hh : o.id ≠ h) : Guards late r h d (o :: opened) marks where
  headed := hs.headed
  framed := forall_mem_cons.mpr ⟨fun _ => ⟨he, hr, hh⟩, hs.framed⟩
  marked := hs.marked
  layered := .cons (fun _ _ _ _ hin => absurd hin (not_or.mpr ⟨hr, hh⟩)) hs.layered
  nonzero := forall_mem_cons.mpr ⟨fun _ => hs.ne_zero he, hs.nonzero⟩

end Guards

section Spots

theorem fosterSpot_isSafe (hs : b.Seated late r h) (hsub : opened ⊆ b.opened) :
    (b.fosterSpot opened).IsSafe r b.draft := by
  induction opened with
  | nil => trivial
  | cons o opened ih =>
    cases opened with
    | nil => trivial
    | cons outer os =>
      rw [fosterSpot]
      split_ifs with _ ht
      · trivial
      · exact (hs.framed o (hsub mem_cons_self) (.inl ht)).imp_right And.left
      · trivial
      · exact ih fun _ hm => hsub (mem_cons_of_mem _ hm)

theorem spotFor_isSafe (hs : b.Seated late r h) (o : Opened) :
    (b.spotFor o).IsSafe r b.draft := by
  rw [spotFor]
  split
  · exact fosterSpot_isSafe hs fun _ hm => hm
  · trivial

theorem spot_isSafe (hs : b.Seated late r h) : b.spot.IsSafe r b.draft := by
  rw [spot]
  split
  · exact spotFor_isSafe hs _
  · trivial

end Spots

namespace Seated

theorem lt (hs : b.Seated late r h) : r < b.draft.cells.size ∧ h < b.draft.cells.size :=
  ⟨lt_of_tag? hs.headed.root, lt_of_tag? hs.headed.head⟩

theorem addText (hs : b.Seated late r h) (s : String) : (b.addText s).Seated late r h :=
  hs.keeps (keeps_insertText (spot_isSafe hs) hs.lt.1 hs.lt.2 s)

theorem addComment (hs : b.Seated late r h) (s : String) : (b.addComment s).Seated late r h :=
  hs.keeps (keeps_insertComment (spot_isSafe hs) hs.lt.1 hs.lt.2 s)

theorem addTopComment (hs : b.Seated late r h) (s : String) :
    (b.addTopComment s).Seated late r h :=
  hs.keeps (keeps_insertComment Spot.isSafe_under hs.lt.1 hs.lt.2 s)

theorem addRootComment (hs : b.Seated late r h) (s : String) :
    (b.addRootComment s).Seated late r h :=
  hs.keeps (keeps_insertComment Spot.isSafe_under hs.lt.1 hs.lt.2 s)

end Seated

structure Makes (r h : Nat) (b : Builder) (made : Builder × Opened) : Prop where
  keeps : Keeps r h b.draft made.1.draft
  opened : made.1.opened = b.opened
  marks : made.1.marks = b.marks
  isElement : made.1.draft.IsElement made.2.id
  ne_root : made.2.id ≠ r
  ne_head : made.2.id ≠ h

theorem Makes.seated {made : Builder × Opened} (hm : Makes r h b made)
    (hs : b.Seated late r h) : made.1.Seated late r h := by
  have hkept := hs.keeps hm.keeps
  rwa [← hm.opened, ← hm.marks] at hkept

theorem isElement_add {attrs : List (String × String)} {name : String} {template : Option Nat} :
    (d.add (.element name attrs template)).1.IsElement d.cells.size :=
  ⟨name, tag?_add⟩

theorem marked_replace {new : Nat} (hr : new ≠ r) (hh : new ≠ h)
    (hs : ∀ id tag, .element id tag ∈ marks → id ≠ r ∧ id ≠ h) (old : Nat) (tag : Tag) :
    ∀ id tag', .element id tag' ∈ marks.map (fun m => if m.isFor old then .element new tag else m) →
      id ≠ r ∧ id ≠ h := by
  intro id tag' hm
  obtain ⟨m, hm, he⟩ := mem_map.mp hm
  split at he
  · cases he
    exact ⟨hr, hh⟩
  · exact hs id tag' (he ▸ hm)

namespace Seated

theorem make (hs : b.Seated late r h) (space : Space) (tag : Tag) :
    Makes r h b (b.make space tag) := by
  obtain ⟨hr, hh⟩ := hs.lt
  unfold Builder.make
  split_ifs
  · have hsize : (b.draft.add .root).1.cells.size = b.draft.cells.size + 1 := Array.size_push ..
    have hlt : ∀ x < b.draft.cells.size, x < (b.draft.add .root).1.cells.size := by
      rw [hsize]
      exact fun x hx => Nat.lt_succ_of_lt hx
    exact ⟨keeps_addTemplate _, rfl, rfl, isElement_add, Nat.ne_of_gt (hlt r hr),
      Nat.ne_of_gt (hlt h hh)⟩
  · exact ⟨keeps_add _, rfl, rfl, isElement_add, Nat.ne_of_gt hr, Nat.ne_of_gt hh⟩

theorem place (hs : b.Seated late r h) (space : Space) (tag : Tag) :
    Makes r h b (b.place space tag) := by
  have hm := hs.make space tag
  have hmove := keeps_move ((spot_isSafe hs).keeps hm.keeps) hm.ne_root hm.ne_head
  exact ⟨hm.keeps.trans hmove, hm.opened, hm.marks, hmove.isElement hm.isElement, hm.ne_root,
    hm.ne_head⟩

theorem openIn (hs : b.Seated late r h) (space : Space) (tag : Tag) :
    (b.openIn space tag).Seated late r h ∧
      ∃ o, (b.openIn space tag).current? = some o ∧ o.id ≠ r ∧ o.id ≠ h := by
  have hp := hs.place space tag
  exact ⟨(hp.seated hs).push hp.isElement hp.ne_root hp.ne_head, _, rfl, hp.ne_root, hp.ne_head⟩

theorem insert (hs : b.Seated late r h) (tag : Tag) : (b.insert tag).Seated late r h :=
  (hs.openIn .html tag).1

theorem insertEmpty (hs : b.Seated late r h) (tag : Tag) : (b.insertEmpty tag).Seated late r h :=
  (hs.place .html tag).seated hs

theorem insertImplied (hs : b.Seated late r h) (name : String) :
    (b.insertImplied name).Seated late r h := hs.insert _

theorem insertText (hs : b.Seated late r h) (mode : TextMode) (tag : Tag) :
    (b.insertText mode tag).Seated late r h := hs.insert tag

theorem insertRoot (hs : b.Seated late r h) (attrs : List (String × String)) :
    (b.insertRoot attrs).Seated late r h := hs.insert _

theorem insertHead (hs : b.Seated late r h) (attrs : List (String × String)) :
    (b.insertHead attrs).Seated late r h := hs.insert ⟨"head", attrs, false⟩

section Closing

theorem pop (hs : b.Seated late r h) : b.pop.Seated late r h := hs.sublist (drop_sublist 1 _)

theorem popWhile (hs : b.Seated late r h) (p : Opened → Bool) : (b.popWhile p).Seated late r h :=
  hs.sublist (dropWhile_sublist p)

theorem popThrough (hs : b.Seated late r h) (names : List String) :
    (b.popThrough names).Seated late r h := (hs.popWhile _).pop

theorem closeImplied (hs : b.Seated late r h) : b.closeImplied.Seated late r h := hs.popWhile _

theorem closeImpliedBut (hs : b.Seated late r h) (name : String) :
    (b.closeImpliedBut name).Seated late r h := hs.popWhile _

theorem forget (hs : b.Seated late r h) (id : Nat) : (b.forget id).Seated late r h :=
  hs.sublist filter_sublist

theorem closeParagraph (hs : b.Seated late r h) : b.closeParagraph.Seated late r h := by
  rw [Builder.closeParagraph]
  split
  · exact (hs.closeImpliedBut "p").popThrough ["p"]
  · exact hs

end Closing

section Formatting

theorem addMarker (hs : b.Seated late r h) : b.addMarker.Seated late r h :=
  hs.remark fun id tag hm => hs.marked id tag (by simpa [Builder.addMarker] using hm)

theorem remark_of_subset (hs : b.Seated late r h) {marks : List Mark} (hm : marks ⊆ b.marks) :
    ({ b with marks } : Builder).Seated late r h :=
  hs.remark fun id tag hin => hs.marked id tag (hm hin)

theorem clearMarks (hs : b.Seated late r h) : b.clearMarks.Seated late r h :=
  hs.remark_of_subset ((drop_sublist 1 _).trans (dropWhile_sublist _)).subset

theorem dropMark (hs : b.Seated late r h) (id : Nat) : (b.dropMark id).Seated late r h :=
  hs.remark_of_subset filter_sublist.subset

theorem addMark (hs : b.Seated late r h) (hr : id ≠ r) (hh : id ≠ h) (tag : Tag) :
    (b.addMark id tag).Seated late r h := by
  have hpush : ∀ {b : Builder}, b.Seated late r h →
      ({ b with marks := .element id tag :: b.marks } : Builder).Seated late r h := fun hs =>
    hs.remark fun id' tag' hm => by
      rcases mem_cons.mp hm with hm | hm
      · cases hm
        exact ⟨hr, hh⟩
      · exact hs.marked id' tag' hm
  rw [Builder.addMark]
  dsimp only
  split
  · next hthird =>
    cases hlast : ((marked b.marks).filter fun x => alike tag x.2).getLast? with
    | none => exact hpush hs
    | some oldest => exact hpush (hs.dropMark oldest.1)
  · exact hpush hs

theorem insertFormatting (hs : b.Seated late r h) (tag : Tag) :
    (b.insertFormatting tag).Seated late r h := by
  obtain ⟨hs', o, ho, hr, hh⟩ := hs.openIn .html tag
  rw [Builder.insertFormatting, Builder.insert, ho]
  exact hs'.addMark hr hh tag

theorem reopen_go (hs : b.Seated late r h) (marks : List Mark) :
    (reopen.go marks b).Seated late r h := by
  induction marks with
  | nil => exact hs
  | cons mark marks ih =>
    cases mark with
    | marker => exact hs
    | element id tag =>
      rw [reopen.go]
      split
      · exact hs
      obtain ⟨hs', o, ho, hr, hh⟩ := ih.openIn .html tag
      dsimp only
      rw [Builder.insert, ho]
      exact hs'.remark (marked_replace hr hh hs'.marked id tag)

theorem reopen (hs : b.Seated late r h) : b.reopen.Seated late r h := hs.reopen_go b.marks

end Formatting

theorem into (hs : b.Seated late r h) (mode : Mode) : (b.into mode).Seated late r h := hs

theorem forbidFrameset (hs : b.Seated late r h) : b.forbidFrameset.Seated late r h := hs

theorem resetMode (hs : b.Seated late r h) : b.resetMode.Seated late r h := hs

end Seated

section Adoption

variable {inner outer between below : List Opened} {block : Opened} {c : Climb}

structure IsFree (r h : Nat) (d : Draft) (o : Opened) : Prop where
  ne_zero : o.id ≠ 0
  ne_root : o.id ≠ r
  ne_head : o.id ≠ h
  framed : o.isHtml "table" ∨ o.isHtml "body" → d.IsElement o.id

theorem IsFree.keeps (hf : IsFree r h d o) (hk : Keeps r h d e) : IsFree r h e o :=
  { hf with framed := fun ho => hk.isElement (hf.framed ho) }

theorem Makes.isFree {made : Builder × Opened} (hm : Makes r h b made)
    (hs : b.Seated late r h) : IsFree r h made.1.draft made.2 :=
  ⟨(hm.seated hs).ne_zero hm.isElement, hm.ne_root, hm.ne_head, fun _ => hm.isElement⟩

namespace Guards

theorem append (hs : Guards none r h d opened marks) (hf : ∀ o ∈ opened', IsFree r h d o) :
    Guards none r h d (opened' ++ opened) marks where
  headed := hs.headed
  framed := fun o ho hname => by
    rcases mem_append.mp ho with ho | ho
    · exact ⟨(hf o ho).framed hname, (hf o ho).ne_root, (hf o ho).ne_head⟩
    · exact hs.framed o ho hname
  marked := hs.marked
  layered := by
    have hno : ∀ o ∈ opened', ¬ (o.id = r ∨ o.id = h) := fun o ho =>
      not_or.mpr ⟨(hf o ho).ne_root, (hf o ho).ne_head⟩
    refine pairwise_append.mpr ⟨?_, hs.layered, fun o ho _ _ _ _ hin => absurd hin (hno o ho)⟩
    exact pairwise_iff_forall_sublist.mpr fun hsub _ _ hin =>
      absurd hin (hno _ (hsub.subset mem_cons_self))
  nonzero := fun o ho _ => by
    rcases mem_append.mp ho with ho | ho
    · exact (hf o ho).ne_zero
    · exact hs.nonzero o ho nofun

/-- Neither the root nor the head stands open inside of an element that is neither. -/
theorem isFree_of_inner (hs : Guards none r h d (inner ++ o :: outer) marks) (hr : o.id ≠ r)
    (hh : o.id ≠ h) : ∀ x ∈ inner ++ [o], IsFree r h d x := by
  have hids : ∀ x ∈ inner ++ [o], x.id ≠ r ∧ x.id ≠ h := by
    intro x hx
    rcases mem_append.mp hx with hx | hx
    · by_contra hin
      have hin : x.id = r ∨ x.id = h := by tauto
      have ho := (pairwise_append.mp hs.layered).2.2 x hx o mem_cons_self nofun nofun hin
      exact ho.elim hr hh
    · rw [mem_singleton.mp hx]
      exact ⟨hr, hh⟩
  intro x hx
  have hmem : x ∈ inner ++ o :: outer := by
    rw [← singleton_append, ← append_assoc]
    exact mem_append_left _ hx
  exact ⟨hs.nonzero x hmem nofun, (hids x hx).1, (hids x hx).2, fun hf => (hs.framed x hmem hf).1⟩

end Guards

structure Climbs (r h : Nat) (b : Builder) (c : Climb) : Prop where
  seated : c.builder.Seated none r h
  opened : c.builder.opened = b.opened
  keeps : Keeps r h b.draft c.builder.draft
  last_ne_root : c.last ≠ r
  last_ne_head : c.last ≠ h
  kept : ∀ o ∈ c.kept, IsFree r h c.builder.draft o

theorem Climbs.pass (hc : Climbs r h b c) (block : Nat) (o : Opened) (rank : Nat) :
    Climbs r h b (c.pass block o rank) := by
  rw [Climb.pass]
  dsimp only
  split
  · next tag _ =>
    split
    · exact { hc with seated := hc.seated.dropMark o.id }
    have hm := hc.seated.make .html tag
    have hmove : Keeps r h (c.builder.make .html tag).1.draft
        ((c.builder.make .html tag).1.draft.move (.under (c.builder.make .html tag).2.id) c.last) :=
      keeps_move trivial hc.last_ne_root hc.last_ne_head
    have hkeeps := hm.keeps.trans hmove
    have hfree := (hm.isFree hc.seated).keeps hmove
    refine ⟨?_, hm.opened.trans hc.opened, hc.keeps.trans hkeeps, hm.ne_root, hm.ne_head, ?_⟩
    · exact ((hm.seated hc.seated).keeps hmove).remark
        (marked_replace hm.ne_root hm.ne_head (hm.seated hc.seated).marked o.id tag)
    · intro x hx
      rcases mem_append.mp hx with hx | hx
      · exact (hc.kept x hx).keeps hkeeps
      · rw [mem_singleton.mp hx]
        exact hfree
  · exact hc

theorem Climbs.passAll (hc : Climbs r h b c) (block : Nat) (between : List Opened) :
    Climbs r h b (c.passAll block between) := by
  rw [Climb.passAll]
  generalize between.zipIdx = steps
  induction steps generalizing c with
  | nil => exact hc
  | cons step steps ih => exact ih (hc.pass block step.1 step.2)

theorem element_mem_of_marked {x : Nat × Tag} (hm : x ∈ marked marks) :
    .element x.1 x.2 ∈ marks := by
  induction marks with
  | nil => cases hm
  | cons mark marks ih =>
    cases mark with
    | marker => cases hm
    | element id tag =>
      rcases mem_cons.mp hm with rfl | hm
      · exact mem_cons_self
      · exact mem_cons_of_mem _ (ih hm)

theorem span_cons {α : Type} {p : α → Bool} {xs front back : List α} {x : α}
    (hs : xs.span p = (front, x :: back)) : xs = front ++ x :: back ∧ p x = false := by
  rw [span_eq_takeWhile_dropWhile] at hs
  obtain ⟨rfl, hx⟩ := Prod.mk.inj hs
  refine ⟨?_, ?_⟩
  · rw [← hx, takeWhile_append_dropWhile]
  · have := head?_dropWhile_not p xs
    rw [hx] at this
    simpa using this

theorem marked_settle (tag : Tag) (bookmark : Bookmark) (old : Nat) {new : Nat} (hr : new ≠ r)
    (hh : new ≠ h) (hs : ∀ id tag, .element id tag ∈ marks → id ≠ r ∧ id ≠ h) :
    ∀ id tag', .element id tag' ∈ bookmark.settle old (.element new tag) marks →
      id ≠ r ∧ id ≠ h := by
  cases bookmark with
  | inPlace => exact marked_replace hr hh hs old tag
  | behind previous =>
    intro id tag' hm
    obtain ⟨m, hm, hin⟩ := mem_flatMap.mp (mem_filter.mp hm).1
    split at hin
    · rcases mem_pair.mp hin with he | he
      · cases he
        exact ⟨hr, hh⟩
      · exact hs id tag' (he ▸ hm)
    · exact hs id tag' (mem_singleton.mp hin ▸ hm)

namespace Seated

theorem moveOut (hs : b.Seated none r h)
    (ho : b.opened = (below ++ block :: between) ++ o :: outer) (hr : o.id ≠ r) (hh : o.id ≠ h)
    (tag : Tag) : (b.moveOut o tag below block between outer).Seated none r h := by
  have hfree : ∀ x ∈ (below ++ block :: between) ++ [o], IsFree r h b.draft x := by
    rw [Seated, ho] at hs
    exact hs.isFree_of_inner hr hh
  have hblock := hfree block (by simp)
  have hstart : Climbs r h b ⟨b, block.id, [], .inPlace⟩ :=
    ⟨hs, rfl, .refl r h _, hblock.ne_root, hblock.ne_head, fun _ hm => absurd hm not_mem_nil⟩
  have hc := hstart.passAll block.id between
  rw [Builder.moveOut]
  generalize Climb.passAll block.id ⟨b, block.id, [], .inPlace⟩ between = c at hc
  have houter : Guards none r h c.builder.draft outer c.builder.marks := by
    refine hc.seated.sublist ?_
    rw [hc.opened, ho]
    exact (sublist_cons_self o outer).trans (sublist_append_right _ _)
  have hstay : ∀ x ∈ below ++ block :: (c.kept ++ [o]), IsFree r h c.builder.draft x := by
    intro x hx
    simp only [mem_append, mem_cons, not_mem_nil, or_false] at hx
    rcases hx with hx | rfl | hx | rfl
    · exact (hfree x (by simp [hx])).keeps hc.keeps
    · exact hblock.keeps hc.keeps
    · exact hc.kept x hx
    · exact (hfree x (by simp)).keeps hc.keeps
  -- The node that moves last goes out to a spot that is found while all of them stand open.
  let b₁ : Builder := { c.builder with opened := below ++ block :: (c.kept ++ o :: outer) }
  have hall : b₁.Seated none r h := by
    have happ := houter.append hstay
    simp only [append_assoc, cons_append] at happ
    exact happ
  have hspot : (outer.head?.elim b₁.spot b₁.spotFor).IsSafe r b₁.draft := by
    cases outer.head? with
    | none => exact spot_isSafe hall
    | some o => exact spotFor_isSafe hall o
  have hmove := keeps_move hspot hc.last_ne_root hc.last_ne_head
  let b₂ : Builder :=
    { b₁ with draft := b₁.draft.move (outer.head?.elim b₁.spot b₁.spotFor) c.last }
  have hmoved : b₂.Seated none r h := hall.keeps hmove
  have hm := hmoved.make .html tag
  let d₃ := ((b₂.make .html tag).1.draft.moveChildren block.id (b₂.make .html tag).2.id).move
    (.under block.id) (b₂.make .html tag).2.id
  have hwrap : Keeps r h (b₂.make .html tag).1.draft d₃ :=
    (hm.seated hmoved).headed.keeps_wrap hblock.ne_zero hblock.ne_root hm.ne_root hm.ne_head
  have hkeeps := (hmove.trans hm.keeps).trans hwrap
  have hopen : ∀ x ∈ below ++ (b₂.make .html tag).2 :: block :: c.kept, IsFree r h d₃ x := by
    intro x hx
    simp only [mem_append, mem_cons] at hx
    rcases hx with hx | rfl | hx
    · exact (hstay x (by simp [hx])).keeps hkeeps
    · exact (hm.isFree hmoved).keeps hwrap
    · exact (hstay x (by simp only [mem_append, mem_cons]; tauto)).keeps hkeeps
  have happ := ((houter.keeps hkeeps).append hopen).remark
    (marked_settle tag c.bookmark o.id hm.ne_root hm.ne_head
      (hm.seated hmoved).marked)
  simp only [append_assoc, cons_append] at happ
  exact happ

theorem closeNamed (hs : b.Seated late r h) (name : String) :
    (b.closeNamed name).Seated late r h := by
  rw [Builder.closeNamed]
  split
  · exact hs.popThrough [name]
  · exact hs

theorem adoptOnce (hs : b.Seated none r h) (name : String) :
    (b.adoptOnce name).1.Seated none r h := by
  rw [Builder.adoptOnce]
  split
  · exact hs.closeNamed name
  · next id tag hfind =>
    have hid : id ≠ r ∧ id ≠ h :=
      hs.marked id tag (element_mem_of_marked (mem_of_find?_eq_some hfind))
    split
    · exact hs.dropMark id
    · next inner o outer hspan =>
      obtain ⟨hopened, ho⟩ := span_cons hspan
      have ho : o.id = id := by simpa using ho
      split
      · exact hs
      split
      · exact Seated.dropMark (b := { b with opened := outer })
          (hs.sublist (hopened ▸ (sublist_cons_self o outer).trans (sublist_append_right _ _))) id
      · next between block below hblocks =>
        obtain ⟨hinner, -⟩ := span_cons hblocks
        have hinner : inner = below.reverse ++ block :: between.reverse := by
          rw [← reverse_reverse inner, hinner]
          simp
        exact hs.moveOut (hinner ▸ hopened) (ho ▸ hid.1) (ho ▸ hid.2) tag

theorem adopt (hs : b.Seated none r h) (name : String) (n : Nat) :
    (Builder.adopt name n b).Seated none r h := by
  induction n generalizing b with
  | zero => exact hs
  | succ n ih =>
    have hone := hs.adoptOnce name
    rw [Builder.adopt]
    generalize b.adoptOnce name = round at hone
    obtain ⟨b', more⟩ := round
    cases more with
    | true => exact ih hone
    | false => exact hone

theorem closeFormatting (hs : b.Seated none r h) (name : String) :
    (b.closeFormatting name).Seated none r h := by
  rw [Builder.closeFormatting]
  split
  · exact hs.pop
  · exact hs.adopt name 8

end Seated

end Adoption

end HeadAudit.Markup.Builder
