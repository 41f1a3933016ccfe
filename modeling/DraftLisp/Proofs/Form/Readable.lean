import DraftLisp.Proofs.Form.Reading
import DraftLisp.Proofs.Token.Canonical

namespace DraftLisp

namespace Form

/-- Forms that can stand where `room` more levels may be begun. -/
inductive Readable : Nat → Form → Prop
  | number {room : Nat} {value : Float} :
      value.isFinite = true → Readable (room + 1) (.number value)
  | string {room : Nat} {text : String} : Readable (room + 1) (.string text)
  | symbol {room : Nat} {name : String} :
      Token.IsName name → Readable (room + 1) (.symbol name)
  | list {room : Nat} {items : List Form} :
      (∀ item ∈ items, Readable room item) → Readable (room + 1) (.list items)

theorem isName_quote : Token.IsName "QUOTE" :=
  Token.isName_of_plain (by decide) (by decide) rfl

theorem Readable.pos {room : Nat} {form : Form} (h : form.Readable room) : 0 < room := by
  cases h <;> exact Nat.succ_pos _

theorem Readable.quoted {room : Nat} {form : Form} (h : form.Readable room) :
    form.quoted.Readable (room + 1) := by
  apply Readable.list
  intro item hitem
  simp only [List.mem_cons, List.not_mem_nil, or_false] at hitem
  rcases hitem with rfl | rfl
  · obtain ⟨inner, hinner⟩ := Nat.exists_eq_add_one.mpr h.pos
    rw [hinner]
    exact .symbol isName_quote
  · exact h

end Form

namespace Reader

open Form (Readable)

def Opening.items : Opening → List Form
  | .list items => items
  | .quote => []

/-- Openings that were begun below the limit, with elements that were read below it. -/
inductive Fitting (limit : Nat) : List Opening → Prop
  | nil : Fitting limit []
  | cons {opening : Opening} {outer : List Opening} :
      outer.length < limit →
      (∀ item ∈ opening.items, item.Readable (limit - (outer.length + 1))) →
      Fitting limit outer →
      Fitting limit (opening :: outer)

structure State.Fits (limit : Nat) (state : State) : Prop where
  openings : Fitting limit state.openings
  forms : ∀ form ∈ state.forms, form.Readable limit

theorem fits_start (limit : Nat) : State.start.Fits limit :=
  ⟨.nil, fun _ hform => nomatch hform⟩

theorem room_eq_succ {limit depth : Nat} (h : depth < limit) :
    limit - depth = limit - (depth + 1) + 1 := by
  omega

theorem fits_deliver {limit : Nat} {form : Form} {forms : List Form} {openings : List Opening}
    (hopenings : Fitting limit openings) (hforms : ∀ form ∈ forms, form.Readable limit)
    (hform : form.Readable (limit - openings.length)) :
    (deliver form forms openings).Fits limit := by
  induction hopenings generalizing form with
  | nil =>
      refine ⟨.nil, ?_⟩
      intro other hother
      rcases List.mem_cons.mp hother with rfl | hother
      · exact hform
      · exact hforms other hother
  | @cons opening outer hdepth hitems houter ih =>
      cases opening with
      | quote =>
          -- The quoted form is finished as well and goes on outward.
          apply ih
          rw [room_eq_succ hdepth]
          exact hform.quoted
      | list items =>
          refine ⟨.cons hdepth ?_ houter, hforms⟩
          intro item hitem
          rcases List.mem_cons.mp hitem with rfl | hitem
          · exact hform
          · exact hitems item hitem

theorem fits_open {limit : Nat} {state : State} {opening : Opening} (h : state.Fits limit)
    (hdepth : state.openings.length < limit) (hitems : opening.items = []) :
    State.Fits limit ⟨opening :: state.openings, state.forms⟩ := by
  refine ⟨.cons hdepth ?_ h.openings, h.forms⟩
  rw [hitems]
  intro item hitem
  cases hitem

/-- A form that is a token of its own goes into the innermost opening. -/
theorem fits_atom {limit : Nat} {state : State} {form : Form} (h : state.Fits limit)
    (hdepth : state.openings.length < limit) (hform : ∀ room, form.Readable (room + 1)) :
    (deliver form state.forms state.openings).Fits limit := by
  apply fits_deliver h.openings h.forms
  rw [room_eq_succ hdepth]
  exact hform _

theorem fits_step {limit : Nat} {state after : State} {token : Token} (h : state.Fits limit)
    (htoken : token.Canonical) (hstep : Steps limit state token after) : after.Fits limit := by
  cases hstep with
  | opening hdepth => exact fits_open h hdepth rfl
  | quote hdepth => exact fits_open h hdepth rfl
  | number hdepth => exact fits_atom h hdepth fun _ => .number htoken
  | string hdepth => exact fits_atom h hdepth fun _ => .string
  | symbol hdepth => exact fits_atom h hdepth fun _ => .symbol htoken
  | closing hopenings =>
      have hfitting := h.openings
      rw [hopenings] at hfitting
      cases hfitting with
      | cons hdepth hitems houter =>
          apply fits_deliver houter h.forms
          rw [room_eq_succ hdepth]
          apply Readable.list
          intro item hitem
          exact hitems item (List.mem_reverse.mp hitem)

theorem readable_of_forms {limit : Nat} {tokens : List Token} {read : List Form}
    (htokens : ∀ token ∈ tokens, token.Canonical) (h : forms limit tokens = .ok read) :
    ∀ form ∈ read, form.Readable limit := by
  obtain ⟨found, hfold, rfl⟩ := forms_eq_ok_iff.mp h
  have hfits := holds_of_foldlM
    (P := fun before state => (∀ token ∈ before, token.Canonical) → state.Fits limit)
    (fun _ => fits_start limit)
    (fun hbefore hstep htokens => fits_step
      (hbefore fun token hmem => htokens token (List.mem_append_left _ hmem))
      (htokens _ (by simp)) hstep)
    hfold htokens
  exact fun form hform => hfits.forms form (List.mem_reverse.mp hform)

theorem readable_of_readText {limit : Nat} {input : String} {read : List Form}
    (h : readText limit input = .ok read) : ∀ form ∈ read, form.Readable limit := by
  obtain ⟨tokens, htokens, hforms⟩ := readText_eq_ok_iff.mp h
  exact readable_of_forms (Token.canonical_scan (Token.tokenize_eq_ok_iff.mp htokens)) hforms

end Reader

end DraftLisp
