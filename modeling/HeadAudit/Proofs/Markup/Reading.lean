import HeadAudit.Proofs.Markup.Seated

namespace HeadAudit.Markup.Builder

open List Draft

variable {late : Option Nat} {r h : Nat} {b : Builder} {t : Token}

namespace Seated

theorem ite {c : Prop} [Decidable c] {b b' : Builder} (hs : b.Seated late r h)
    (hs' : b'.Seated late r h) : (if c then b else b').Seated late r h := by
  split
  · exact hs
  · exact hs'

theorem ite_builder {c : Prop} [Decidable c] {o o' : Outcome} (hs : o.builder.Seated late r h)
    (hs' : o'.builder.Seated late r h) : (if c then o else o').builder.Seated late r h := by
  split
  · exact hs
  · exact hs'

section Head

theorem addRootAttributes (hs : b.Seated late r h) (tag : Tag) :
    (b.addRootAttributes tag).Seated late r h := by
  rw [Builder.addRootAttributes]
  split
  · exact hs
  · split
    · next root _ => exact hs.keeps (keeps_addAttributes root.id tag.attrs)
    · exact hs

theorem openTemplate (hs : b.Seated late r h) (tag : Tag) :
    (b.openTemplate tag).Seated late r h :=
  (hs.addMarker.forbidFrameset.into .inTemplate).insert tag

theorem leaveTemplate (hs : b.Seated late r h) : b.leaveTemplate.Seated late r h :=
  (hs.popThrough ["template"]).clearMarks

theorem closeTemplate (hs : b.Seated late r h) : b.closeTemplate.Seated late r h := by
  rw [Builder.closeTemplate]
  split
  · exact (hs.popWhile _).leaveTemplate
  · exact hs

theorem endTemplates (hs : b.Seated late r h) : b.endTemplates.builder.Seated late r h := by
  rw [Builder.endTemplates]
  split
  · exact hs.leaveTemplate
  · exact hs

theorem insertMetadata (hs : b.Seated late r h) (tag : Tag) :
    (b.insertMetadata tag).Seated late r h := by
  rw [Builder.insertMetadata]
  refine .ite (hs.insertText _ tag) (.ite (hs.insertText _ tag) (.ite (hs.insertText _ tag) ?_))
  exact .ite (hs.openTemplate tag) (hs.insertEmpty tag)

/-- The head stands open again for one element, and for nothing that is moved. -/
theorem insertLate (hs : b.Seated none r h) (tag : Tag) : (b.insertLate tag).Seated none r h := by
  rw [Builder.insertLate]
  split
  · next id _ =>
    have hlate : Guards (some id) r h b.draft (⟨id, .html, "head", false⟩ :: b.opened) b.marks :=
      { headed := hs.headed
        framed := forall_mem_cons.mpr
          ⟨fun hf => by simp [Opened.isHtml, Opened.isIn] at hf, hs.framed⟩
        marked := hs.marked
        layered := .cons (fun _ _ hne => absurd rfl hne)
          (hs.layered.imp fun hl _ _ => hl nofun nofun)
        nonzero := forall_mem_cons.mpr
          ⟨fun hne => absurd rfl hne, fun o ho _ => hs.nonzero o ho nofun⟩ }
    have hmeta := insertMetadata (b := { b with opened := ⟨id, .html, "head", false⟩ :: b.opened })
      hlate tag
    have hforget := hmeta.forget id
    have hne : ∀ o ∈ (({ b with opened := ⟨id, .html, "head", false⟩ :: b.opened } :
        Builder).insertMetadata tag |>.forget id).opened, some id ≠ some o.id := by
      intro o ho
      have hne := bne_iff_ne.mp (mem_filter.mp ho).2
      exact fun he => hne (Option.some.inj he).symm
    exact { hforget with
      layered := hforget.layered.imp_of_mem fun hx hy hl _ _ => hl (hne _ hx) (hne _ hy)
      nonzero := fun o ho _ => hforget.nonzero o ho (hne o ho) }
  · exact hs

theorem readInitial (hs : b.Seated late r h) (t : Token) :
    (b.readInitial t).builder.Seated late r h := by
  cases t with
  | comment s => exact hs.addTopComment s
  | _ => exact hs

theorem readDoctype (hs : b.Seated late r h) (d : Doctype) : (b.readDoctype d).Seated late r h := by
  rw [Builder.readDoctype]
  refine .ite ?_ hs
  exact hs.keeps (keeps_insert Spot.isSafe_under hs.lt.1 hs.lt.2 (.doctype d.name))

theorem readBeforeHtml (hs : b.Seated late r h) (t : Token) :
    (b.readBeforeHtml t).builder.Seated late r h := by
  have hcreate : ((b.insertRoot []).into .beforeHead).Seated late r h := hs.insertRoot []
  cases t with
  | comment s => exact hs.addTopComment s
  | blank s => exact hs
  | opening tag => exact .ite_builder (hs.insertRoot tag.attrs) hcreate
  | closing name => exact .ite_builder hcreate hs
  | _ => exact hcreate

theorem readBeforeHead (hs : b.Seated late r h) (t : Token) :
    (b.readBeforeHead t).builder.Seated late r h := by
  have hcreate : ((b.insertHead []).into .inHead).Seated late r h := hs.insertHead []
  cases t with
  | comment s => exact hs.addComment s
  | blank s => exact hs
  | opening tag =>
    refine .ite_builder (hs.addRootAttributes tag) ?_
    exact .ite_builder (hs.insertHead tag.attrs) hcreate
  | closing name => exact .ite_builder hcreate hs
  | _ => exact hcreate

theorem readInHead (hs : b.Seated late r h) (t : Token) :
    (b.readInHead t).builder.Seated late r h := by
  have hleave : (b.pop.into .afterHead).Seated late r h := hs.pop
  cases t with
  | blank s => exact hs.addText s
  | comment s => exact hs.addComment s
  | opening tag =>
    refine .ite_builder (hs.addRootAttributes tag) ?_
    exact .ite_builder (hs.insertMetadata tag) (.ite_builder hs hleave)
  | closing name =>
    exact .ite_builder hleave (.ite_builder hs.closeTemplate (.ite_builder hleave hs))
  | _ => exact hleave

theorem readAfterHead (hs : b.Seated none r h) (t : Token) :
    (b.readAfterHead t).builder.Seated none r h := by
  have hcreate : ((b.insertImplied "body").into .inBody).Seated none r h := hs.insertImplied "body"
  cases t with
  | blank s => exact hs.addText s
  | comment s => exact hs.addComment s
  | opening tag =>
    refine .ite_builder (hs.addRootAttributes tag) ?_
    refine .ite_builder (hs.insert tag) (.ite_builder (hs.insert tag) ?_)
    exact .ite_builder (hs.insertLate tag) (.ite_builder hs hcreate)
  | closing name => exact .ite_builder hs.closeTemplate (.ite_builder hcreate hs)
  | _ => exact hcreate

theorem readInText (hs : b.Seated late r h) (t : Token) :
    (b.readInText t).builder.Seated late r h := by
  cases t with
  | blank s => exact hs.addText s
  | text s => exact hs.addText s
  | closing name => exact hs.pop
  | eof => exact hs.pop
  | _ => exact hs

end Head

section Body

variable (hs : b.Seated none r h) (tag : Tag) (name : String)

include hs

theorem addBodyAttributes : (b.addBodyAttributes tag).Seated none r h := by
  rw [Builder.addBodyAttributes]
  split
  · split
    · next root body _ _ _ => exact hs.keeps (keeps_addAttributes body.id tag.attrs)
    · exact hs
  · exact hs

/-- The body that a frameset replaces is neither the root nor the head. -/
theorem insertFrameset : (b.insertFrameset tag).Seated none r h := by
  rw [Builder.insertFrameset]
  split
  · next root body os ho =>
    split
    · next hbody =>
      have hopened : b.opened = os.reverse ++ [body, root] := by
        rw [← reverse_reverse b.opened, ho]
        simp
      rw [Bool.and_eq_true] at hbody
      have hfree := hs.framed body (by simp [hopened]) (.inr hbody.2)
      have hroot : ({ b with draft := b.draft.detach body.id, opened := [root] } :
          Builder).Seated none r h :=
        (hs.sublist (by simp [hopened])).keeps (keeps_detach hfree.2.1 hfree.2.2)
      exact hroot.insert tag
    · exact hs
  · exact hs

theorem insertBlock : (b.insertBlock tag).Seated none r h := hs.closeParagraph.insert tag

theorem insertHeading : (b.insertHeading tag).Seated none r h := by
  rw [Builder.insertHeading]
  split
  · exact hs.closeParagraph.pop.insert tag
  · exact hs.closeParagraph.insert tag

theorem insertPreformatted : (b.insertPreformatted tag).Seated none r h := hs.insertBlock tag

theorem insertForm : (b.insertForm tag).Seated none r h := by
  rw [Builder.insertForm]
  split_ifs
  · exact hs.insertBlock tag
  · exact hs
  · exact hs.insertBlock tag

theorem insertItem (names : List String) : (b.insertItem names tag).Seated none r h := by
  rw [Builder.insertItem]
  cases item? names b.forbidFrameset.opened with
  | none => exact hs.forbidFrameset.insertBlock tag
  | some name =>
    exact ((hs.forbidFrameset.closeImpliedBut name).popThrough [name]).insertBlock tag

theorem insertButton : (b.insertButton tag).Seated none r h := by
  rw [Builder.insertButton]
  split
  · exact (hs.closeImplied.popThrough ["button"]).reopen.insert tag
  · exact hs.reopen.insert tag

theorem insertLink : (b.insertLink tag).Seated none r h := by
  rw [Builder.insertLink]
  dsimp only
  cases (marked b.marks).find? (·.2.name == "a") with
  | none => exact hs.reopen.insertFormatting tag
  | some mark =>
    exact (((hs.closeFormatting "a").dropMark mark.1).forget mark.1).reopen.insertFormatting tag

theorem insertNobr : (b.insertNobr tag).Seated none r h := by
  rw [Builder.insertNobr]
  split
  · exact (hs.reopen.closeFormatting "nobr").reopen.insertFormatting tag
  · exact hs.reopen.insertFormatting tag

theorem insertEmbedded : (b.insertEmbedded tag).Seated none r h := (hs.reopen.insert tag).addMarker

theorem insertTable : (b.insertTable tag).Seated none r h := by
  rw [Builder.insertTable]
  split
  · exact hs.insert tag
  · exact hs.closeParagraph.insert tag

theorem insertInput : (b.insertInput tag).Seated none r h := by
  rw [Builder.insertInput]
  split
  · exact hs.reopen.insertEmpty tag
  · exact hs.reopen.insertEmpty tag

theorem insertSelect : (b.insertSelect tag).Seated none r h := hs.reopen.insert tag

theorem insertOption : (b.insertOption tag).Seated none r h := by
  rw [Builder.insertOption]
  split
  · exact hs.pop.reopen.insert tag
  · exact hs.reopen.insert tag

theorem insertRuby : (b.insertRuby tag).Seated none r h := by
  rw [Builder.insertRuby]
  split_ifs
  · exact (hs.closeImpliedBut "rtc").insert tag
  · exact hs.closeImplied.insert tag
  · exact hs.insert tag

theorem insertForeign (space : Space) : (b.insertForeign space tag).Seated none r h := by
  rw [Builder.insertForeign]
  split
  · exact (hs.reopen.place space _).seated hs.reopen
  · exact (hs.reopen.openIn space _).1

theorem openInBody : (b.openInBody tag).Seated none r h := by
  rw [Builder.openInBody]
  refine .ite (hs.addRootAttributes tag) ?_
  refine .ite (hs.insertMetadata tag) ?_
  refine .ite (hs.addBodyAttributes tag) ?_
  refine .ite (hs.insertFrameset tag) ?_
  refine .ite (hs.insertBlock tag) ?_
  refine .ite (hs.insertHeading tag) ?_
  refine .ite (hs.insertPreformatted tag) ?_
  refine .ite (hs.insertForm tag) ?_
  refine .ite (hs.insertItem tag _) ?_
  refine .ite (hs.insertItem tag _) ?_
  refine .ite (hs.insertBlock tag) ?_
  refine .ite (hs.insertButton tag) ?_
  refine .ite (hs.insertLink tag) ?_
  refine .ite (hs.insertNobr tag) ?_
  refine .ite (hs.reopen.insertFormatting tag) ?_
  refine .ite (hs.insertEmbedded tag) ?_
  refine .ite (hs.insertTable tag) ?_
  refine .ite (hs.reopen.insertEmpty tag) ?_
  refine .ite (hs.reopen.insertEmpty { tag with name := "img" }) ?_
  refine .ite (hs.insertInput tag) ?_
  refine .ite (hs.insertEmpty tag) ?_
  refine .ite (hs.closeParagraph.insertEmpty tag) ?_
  refine .ite (hs.forbidFrameset.insertText (.escapable tag.name) tag) ?_
  refine .ite (hs.closeParagraph.reopen.forbidFrameset.insertText _ tag) ?_
  refine .ite (hs.forbidFrameset.insertText _ tag) ?_
  refine .ite (hs.insertText _ tag) ?_
  refine .ite (hs.insertSelect tag) ?_
  refine .ite (hs.insertOption tag) ?_
  refine .ite (hs.insertRuby tag) ?_
  refine .ite (hs.insertForeign tag _) ?_
  refine .ite (hs.insertForeign tag _) ?_
  refine .ite hs ?_
  exact hs.reopen.insert tag

theorem closeInScope : (b.closeInScope name).Seated none r h := by
  rw [Builder.closeInScope]
  split
  · exact hs.closeImplied.popThrough [name]
  · exact hs

theorem closeForm : b.closeForm.Seated none r h := by
  rw [Builder.closeForm]
  split
  · exact hs.closeInScope "form"
  · dsimp only
    split
    · next id _ =>
      split
      · exact forget (b := ({ b with form := none } : Builder).closeImplied)
          (closeImplied (b := { b with form := none }) hs) id
      · exact hs
    · exact hs

theorem endParagraph : b.endParagraph.Seated none r h := by
  rw [Builder.endParagraph]
  split
  · exact hs.closeParagraph
  · exact (hs.insertImplied "p").closeParagraph

theorem closeItem (boundary : Opened → Bool) : (b.closeItem boundary name).Seated none r h := by
  rw [Builder.closeItem]
  split
  · exact (hs.closeImpliedBut name).popThrough [name]
  · exact hs

theorem closeHeading : b.closeHeading.Seated none r h := by
  rw [Builder.closeHeading]
  split
  · exact hs.closeImplied.popThrough _
  · exact hs

theorem closeEmbedded : (b.closeEmbedded name).Seated none r h := by
  rw [Builder.closeEmbedded]
  split
  · exact (hs.closeImplied.popThrough [name]).clearMarks
  · exact hs

theorem closeInBody : (b.closeInBody name).Seated none r h := by
  rw [Builder.closeInBody]
  split_ifs
  · exact hs.closeTemplate
  · exact hs.closeInScope name
  · exact hs.closeForm
  · exact hs.endParagraph
  · exact hs.closeItem name _
  · exact hs.closeItem name _
  · exact hs.closeHeading
  · exact hs.closeFormatting name
  · exact hs.closeEmbedded name
  · exact hs.reopen.insertEmpty _
  · exact hs.closeNamed name

theorem readInBody (t : Token) : (b.readInBody t).builder.Seated none r h := by
  cases t with
  | blank s => exact hs.reopen.addText s
  | text s => exact hs.reopen.forbidFrameset.addText s
  | comment s => exact hs.addComment s
  | opening tag => exact hs.openInBody tag
  | closing name =>
    simp only [Builder.readInBody]
    split_ifs
    · exact hs
    · exact hs
    · exact hs
    · exact hs
    · exact hs.closeInBody name
  | eof =>
    simp only [Builder.readInBody]
    split
    · exact hs
    · exact hs.endTemplates
  | _ => exact hs

end Body

section Frameset

theorem readAfterBody (hs : b.Seated none r h) (t : Token) :
    (b.readAfterBody t).builder.Seated none r h := by
  cases t with
  | blank s => exact hs.readInBody (.blank s)
  | comment s => exact hs.addRootComment s
  | opening tag =>
    simp only [Builder.readAfterBody]
    split
    · exact hs.addRootAttributes tag
    · exact hs
  | closing name =>
    simp only [Builder.readAfterBody]
    split
    · exact hs
    · exact hs
  | _ => exact hs

theorem readAfterAfterBody (hs : b.Seated none r h) (t : Token) :
    (b.readAfterAfterBody t).builder.Seated none r h := by
  cases t with
  | blank s => exact hs.readInBody (.blank s)
  | comment s => exact hs.addTopComment s
  | opening tag =>
    simp only [Builder.readAfterAfterBody]
    split
    · exact hs.addRootAttributes tag
    · exact hs
  | _ => exact hs

theorem openNearFrameset (hs : b.Seated none r h) (tag : Tag) :
    (b.openNearFrameset tag).Seated none r h := by
  rw [Builder.openNearFrameset]
  exact .ite (hs.addRootAttributes tag) (.ite (hs.insertMetadata tag) hs)

theorem closeFrameset (hs : b.Seated none r h) : b.closeFrameset.Seated none r h := by
  rw [Builder.closeFrameset]
  exact .ite hs (.ite hs.pop hs.pop)

theorem readInFrameset (hs : b.Seated none r h) (t : Token) :
    (b.readInFrameset t).builder.Seated none r h := by
  cases t with
  | blank s => exact hs.addText s
  | comment s => exact hs.addComment s
  | opening tag => exact .ite (hs.insert tag) (.ite (hs.insertEmpty tag) (hs.openNearFrameset tag))
  | closing name => exact .ite hs.closeFrameset hs
  | _ => exact hs

theorem readAfterFrameset (hs : b.Seated none r h) (t : Token) :
    (b.readAfterFrameset t).builder.Seated none r h := by
  cases t with
  | blank s => exact hs.addText s
  | comment s => exact hs.addComment s
  | opening tag => exact hs.openNearFrameset tag
  | closing name => exact .ite (hs.into .afterAfterFrameset) hs
  | _ => exact hs

theorem readAfterAfterFrameset (hs : b.Seated none r h) (t : Token) :
    (b.readAfterAfterFrameset t).builder.Seated none r h := by
  cases t with
  | blank s => exact hs.readInBody (.blank s)
  | comment s => exact hs.addTopComment s
  | opening tag => exact hs.openNearFrameset tag
  | _ => exact hs

end Frameset

section Select

theorem leaveSelect (hs : b.Seated none r h) : b.leaveSelect.Seated none r h :=
  hs.popThrough ["select"]

theorem closeSelect (hs : b.Seated none r h) : b.closeSelect.Seated none r h :=
  .ite hs.leaveSelect hs

theorem openInSelect (hs : b.Seated none r h) (tag : Tag) :
    (b.openInSelect tag).builder.Seated none r h := by
  have hoption : ∀ {b : Builder}, b.Seated none r h → ∀ name : String,
      (if b.isAt [name] then b.pop else b).Seated none r h := fun hs _ => .ite hs.pop hs
  have houtside := hoption (hoption hs "option") "optgroup"
  refine .ite_builder (hs.addRootAttributes tag) ?_
  refine .ite_builder ((hoption hs "option").insert tag) ?_
  refine .ite_builder (houtside.insert tag) ?_
  refine .ite_builder (houtside.insertEmpty tag) ?_
  refine .ite_builder hs.closeSelect ?_
  refine .ite_builder (.ite_builder hs.leaveSelect hs) ?_
  exact .ite_builder (hs.insertMetadata tag) hs

theorem closeGroup (hs : b.Seated none r h) : b.closeGroup.Seated none r h := by
  rw [Builder.closeGroup]
  have hout : (if b.isAt ["option"] && (b.opened[1]?).any (·.isHtml "optgroup") then b.pop
    else b).Seated none r h := .ite hs.pop hs
  exact .ite hout.pop hout

theorem closeInSelect (hs : b.Seated none r h) (name : String) :
    (b.closeInSelect name).Seated none r h := by
  rw [Builder.closeInSelect]
  refine .ite hs.closeGroup ?_
  refine .ite (.ite hs.pop hs) ?_
  refine .ite hs.closeSelect ?_
  exact .ite hs.closeTemplate hs

theorem readInSelect (hs : b.Seated none r h) (t : Token) :
    (b.readInSelect t).builder.Seated none r h := by
  cases t with
  | blank s => exact hs.addText s
  | text s => exact hs.addText s
  | comment s => exact hs.addComment s
  | opening tag => exact hs.openInSelect tag
  | closing name => exact hs.closeInSelect name
  | eof => exact hs.readInBody .eof
  | _ => exact hs

theorem readInSelectInTable (hs : b.Seated none r h) (t : Token) :
    (b.readInSelectInTable t).builder.Seated none r h := by
  have hread := hs.readInSelect t
  cases t with
  | opening tag => exact .ite_builder hs.leaveSelect hread
  | closing name => exact .ite_builder (.ite_builder hs.leaveSelect hs) hread
  | _ => exact hread

end Select

section Table

theorem again_builder {closed? : Option Builder} (hs : b.Seated none r h)
    (hc : ∀ c ∈ closed?, c.Seated none r h) (t : Token) :
    (closed?.elim (Outcome.done b) (.again · t)).builder.Seated none r h := by
  cases closed? with
  | none => exact hs
  | some c => exact hc c rfl

theorem getD {closed? : Option Builder} (hs : b.Seated none r h)
    (hc : ∀ c ∈ closed?, c.Seated none r h) : (closed?.getD b).Seated none r h := by
  cases closed? with
  | none => exact hs
  | some c => exact hc c rfl

theorem of_mem_ite {c : Prop} [Decidable c] {b b' : Builder} (hs : b.Seated none r h)
    (hm : b' ∈ if c then some b else none) : b'.Seated none r h := by
  split at hm
  · exact Option.some.inj hm ▸ hs
  · cases hm

theorem foster (hs : b.Seated none r h) (t : Token) : (b.foster t).builder.Seated none r h := by
  have hread := readInBody (b := { b with fostering := true }) hs t
  rw [Builder.foster]
  generalize ({ b with fostering := true } : Builder).readInBody t = o at hread
  cases o with
  | done b => exact hread
  | again b t => exact hread

theorem closeTo (hs : b.Seated none r h) (names : List String) :
    (b.closeTo names).Seated none r h := hs.popWhile _

theorem insertTableForm (hs : b.Seated none r h) (tag : Tag) :
    (b.insertTableForm tag).Seated none r h := by
  rw [Builder.insertTableForm]
  exact .ite hs (hs.insert tag).pop

theorem closeTable? (hs : b.Seated none r h) : ∀ c ∈ b.closeTable?, c.Seated none r h :=
  fun _ => of_mem_ite (hs.popThrough ["table"]).resetMode

theorem openInTable (hs : b.Seated none r h) (tag : Tag) :
    (b.openInTable tag).builder.Seated none r h := by
  have hin := hs.closeTo tableContext
  refine .ite_builder (hin.addMarker.insert tag) ?_
  refine .ite_builder (hin.insert tag) ?_
  refine .ite_builder (hin.insertImplied "colgroup") ?_
  refine .ite_builder (hin.insert tag) ?_
  refine .ite_builder (hin.insertImplied "tbody") ?_
  refine .ite_builder (hs.again_builder hs.closeTable? _) ?_
  refine .ite_builder (hs.insertMetadata tag) ?_
  refine .ite_builder (hs.insertEmpty tag) ?_
  refine .ite_builder (hs.insertTableForm tag) ?_
  exact hs.foster (.opening tag)

theorem readInTable (hs : b.Seated none r h) (t : Token) :
    (b.readInTable t).builder.Seated none r h := by
  have htext : (if b.isAt tableFrames then
      Outcome.again (({ b with tableText := [], resume := b.mode } : Builder).into .inTableText) t
      else b.foster t).builder.Seated none r h := .ite_builder hs (hs.foster t)
  cases t with
  | blank s => exact htext
  | text s => exact htext
  | null => exact htext
  | comment s => exact hs.addComment s
  | opening tag => exact hs.openInTable tag
  | closing name =>
    refine .ite_builder (hs.getD hs.closeTable?) ?_
    exact .ite_builder hs.closeTemplate (.ite_builder hs (hs.foster _))
  | eof => exact hs.readInBody .eof
  | _ => exact hs

theorem flushTableText (hs : b.Seated none r h) : b.flushTableText.Seated none r h := by
  rw [Builder.flushTableText]
  generalize b.tableText.reverse.any _ = isVisible
  have hstart : (({ b with tableText := [] } : Builder).into b.resume).Seated none r h := hs
  generalize (({ b with tableText := [] } : Builder).into b.resume) = b₁ at hstart
  induction b.tableText.reverse generalizing b₁ with
  | nil => exact hstart
  | cons t texts ih =>
    refine ih _ ?_
    cases t with
    | blank s => exact .ite (hstart.foster _) (hstart.addText s)
    | text s => exact .ite (hstart.foster _) (hstart.addText s)
    | _ => exact hstart

theorem readInTableText (hs : b.Seated none r h) (t : Token) :
    (b.readInTableText t).builder.Seated none r h := by
  cases t with
  | blank s => exact hs
  | text s => exact hs
  | null => exact hs
  | _ => exact hs.flushTableText

theorem readInCaption (hs : b.Seated none r h) (t : Token) :
    (b.readInCaption t).builder.Seated none r h := by
  have hread := hs.readInBody t
  have hclosed : ∀ c ∈ if b.inTableScope ["caption"] then
      some ((b.closeImplied.popThrough ["caption"]).clearMarks.into .inTable) else none,
      c.Seated none r h := fun _ =>
    of_mem_ite (hs.closeImplied.popThrough ["caption"]).clearMarks
  cases t with
  | opening tag => exact .ite_builder (hs.again_builder hclosed _) hread
  | closing name =>
    refine .ite_builder (hs.getD hclosed) ?_
    exact .ite_builder (hs.again_builder hclosed _) (.ite_builder hs hread)
  | _ => exact hread

theorem readInColumnGroup (hs : b.Seated none r h) (t : Token) :
    (b.readInColumnGroup t).builder.Seated none r h := by
  have hclosed : ∀ c ∈ if b.isAt ["colgroup"] then some (b.pop.into .inTable) else none,
      c.Seated none r h := fun _ => of_mem_ite hs.pop
  have hleave := hs.again_builder hclosed t
  cases t with
  | blank s => exact hs.addText s
  | comment s => exact hs.addComment s
  | opening tag =>
    refine .ite_builder (hs.addRootAttributes tag) ?_
    exact .ite_builder (hs.insertEmpty tag) (.ite_builder (hs.insertMetadata tag) hleave)
  | closing name =>
    refine .ite_builder (hs.getD hclosed) ?_
    exact .ite_builder hs (.ite_builder hs.closeTemplate hleave)
  | eof => exact hs.readInBody .eof
  | _ => exact hleave

theorem readInTableBody (hs : b.Seated none r h) (t : Token) :
    (b.readInTableBody t).builder.Seated none r h := by
  have hread := hs.readInTable t
  have hin := hs.closeTo rowGroupContext
  refine .ite_builder (.ite_builder hin.pop hs) ?_
  cases t with
  | opening tag =>
    exact .ite_builder (hin.insert tag) (.ite_builder (hin.insertImplied "tr") hread)
  | closing name => exact .ite_builder (.ite hin.pop hs) (.ite_builder hs hread)
  | _ => exact hread

theorem readInRow (hs : b.Seated none r h) (t : Token) :
    (b.readInRow t).builder.Seated none r h := by
  have hread := hs.readInTable t
  have hin := hs.closeTo rowContext
  have hclosed : ∀ c ∈ if b.inTableScope ["tr"] then
      some ((b.closeTo rowContext).pop.into .inTableBody) else none, c.Seated none r h :=
    fun _ => of_mem_ite hin.pop
  have hagain := hs.again_builder hclosed t
  refine .ite_builder hagain ?_
  cases t with
  | opening tag => exact .ite_builder (hin.insert tag).addMarker (.ite_builder hagain hread)
  | closing name =>
    refine .ite_builder (hs.getD hclosed) ?_
    exact .ite_builder (.ite_builder hagain hs) (.ite_builder hs hread)
  | _ => exact hread

theorem closeCell (hs : b.Seated none r h) (names : List String) :
    (b.closeCell names).Seated none r h := (hs.closeImplied.popThrough names).clearMarks

theorem readInCell (hs : b.Seated none r h) (t : Token) :
    (b.readInCell t).builder.Seated none r h := by
  have hread := hs.readInBody t
  cases t with
  | opening tag => exact .ite_builder (.ite_builder (hs.closeCell _) hs) hread
  | closing name =>
    refine .ite_builder (.ite (hs.closeCell [name]) hs) ?_
    refine .ite_builder hs ?_
    exact .ite_builder (.ite_builder (hs.closeCell _) hs) hread
  | _ => exact hread

end Table

theorem readInTemplate (hs : b.Seated none r h) (t : Token) :
    (b.readInTemplate t).builder.Seated none r h := by
  have hread := hs.readInBody t
  cases t with
  | blank s => exact hread
  | text s => exact hread
  | comment s => exact hread
  | opening tag => exact .ite_builder (hs.insertMetadata tag) hs
  | closing name => exact .ite hs.closeTemplate hs
  | eof => exact hs.endTemplates
  | _ => exact hs

section Foreign

theorem readByMode (hs : b.Seated none r h) (t : Token) :
    (b.readByMode t).builder.Seated none r h := by
  rw [Builder.readByMode]
  cases b.mode with
  | initial => exact hs.readInitial t
  | beforeHtml => exact hs.readBeforeHtml t
  | beforeHead => exact hs.readBeforeHead t
  | inHead => exact hs.readInHead t
  | afterHead => exact hs.readAfterHead t
  | inBody => exact hs.readInBody t
  | inText => exact hs.readInText t
  | inTable => exact hs.readInTable t
  | inTableText => exact hs.readInTableText t
  | inCaption => exact hs.readInCaption t
  | inColumnGroup => exact hs.readInColumnGroup t
  | inTableBody => exact hs.readInTableBody t
  | inRow => exact hs.readInRow t
  | inCell => exact hs.readInCell t
  | inSelect => exact hs.readInSelect t
  | inSelectInTable => exact hs.readInSelectInTable t
  | inTemplate => exact hs.readInTemplate t
  | afterBody => exact hs.readAfterBody t
  | inFrameset => exact hs.readInFrameset t
  | afterFrameset => exact hs.readAfterFrameset t
  | afterAfterBody => exact hs.readAfterAfterBody t
  | afterAfterFrameset => exact hs.readAfterAfterFrameset t

theorem breakOut (hs : b.Seated none r h) (t : Token) :
    (b.breakOut t).builder.Seated none r h := (hs.popWhile _).readByMode t

theorem openForeign (hs : b.Seated none r h) (tag : Tag) :
    (b.openForeign tag).Seated none r h := by
  rw [Builder.openForeign]
  exact .ite ((hs.place _ _).seated hs) (hs.openIn _ _).1

theorem outside?_sublist {name : String} {opened rest : List Opened}
    (ho : outside? name opened = some rest) : rest <+ opened := by
  induction opened with
  | nil => cases ho
  | cons o os ih =>
    cases os with
    | nil => cases ho
    | cons o' os =>
      unfold outside? at ho
      split_ifs at ho
      · exact Option.some.inj ho ▸ sublist_cons_self o _
      · exact (ih ho).trans (sublist_cons_self o _)

theorem closeForeign (hs : b.Seated none r h) (name : String) :
    (b.closeForeign name).builder.Seated none r h := by
  rw [Builder.closeForeign]
  split
  · next opened ho => exact hs.sublist (outside?_sublist ho)
  · exact hs.readByMode (.closing name)

theorem readForeign (hs : b.Seated none r h) (t : Token) :
    (b.readForeign t).builder.Seated none r h := by
  cases t with
  | blank s => exact hs.addText s
  | text s => exact hs.forbidFrameset.addText s
  | null => exact hs.addText "\ufffd"
  | comment s => exact hs.addComment s
  | opening tag => exact .ite_builder (hs.breakOut _) (hs.openForeign tag)
  | closing name => exact .ite_builder (hs.breakOut _) (hs.closeForeign name)
  | _ => exact hs

end Foreign

section Runs

theorem settle (hs : b.Seated none r h) (fuel : Nat) (t : Token) :
    (Builder.settle fuel b t).Seated none r h := by
  induction fuel generalizing b t with
  | zero => exact hs
  | succ fuel ih =>
    have hstep : (if b.readsForeign t then b.readForeign t else b.readByMode t).builder.Seated
        none r h := .ite_builder (hs.readForeign t) (hs.readByMode t)
    rw [Builder.settle]
    generalize (if b.readsForeign t then b.readForeign t else b.readByMode t) = o at hstep
    cases o with
    | done b => exact hstep
    | again b t => exact ih hstep t

/-- What the head is to its document does not change with any token. -/
theorem read (hs : b.Seated none r h) (t : Token) : (b.read t).Seated none r h := by
  have hs' : ({ b with skipBreak := false } : Builder).Seated none r h := hs
  unfold Builder.read
  generalize ({ b with skipBreak := false } : Builder) = b' at hs'
  have hsettle : ((if b.skipBreak then withoutBreak t else some t).elim b' fun t =>
      b'.settle b'.fuel t).Seated none r h := by
    cases (if b.skipBreak then withoutBreak t else some t) with
    | none => exact hs'
    | some t => exact hs'.settle _ t
  cases t with
  | doctype d => exact hs'.readDoctype d
  | fault => exact hs'
  | _ => exact hsettle

end Runs

end Seated

end HeadAudit.Markup.Builder
