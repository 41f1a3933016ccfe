import DraftLisp.Proofs.Form.Readable
import DraftLisp.Proofs.Simulation.Values

namespace DraftLisp.Reader

variable {spoken : String → Prop}

/-- Everything that was read mentions only names that may be spoken. -/
structure State.Speaks (spoken : String → Prop) (state : State) : Prop where
  openings : ∀ opening ∈ state.openings, ∀ item ∈ opening.items, item.Speaks spoken
  forms : ∀ form ∈ state.forms, form.Speaks spoken

theorem speaks_quoted {form : Form} (hquote : spoken "QUOTE") (h : form.Speaks spoken) :
    form.quoted.Speaks spoken := by
  refine Form.speaks_list_iff.mpr fun item hitem => ?_
  simp only [List.mem_cons, List.not_mem_nil, or_false] at hitem
  rcases hitem with rfl | rfl
  · exact Form.speaks_symbol_iff.mpr hquote
  · exact h

theorem speaks_deliver (hquote : spoken "QUOTE") {form : Form} {forms : List Form}
    {openings : List Opening} (h : State.Speaks spoken ⟨openings, forms⟩)
    (hform : form.Speaks spoken) : (deliver form forms openings).Speaks spoken := by
  induction openings generalizing form with
  | nil =>
      refine ⟨h.openings, fun other hother => ?_⟩
      rcases List.mem_cons.mp hother with rfl | hother
      · exact hform
      · exact h.forms other hother
  | cons opening outer ih =>
      have houter : State.Speaks spoken ⟨outer, forms⟩ :=
        ⟨fun other hother => h.openings other (List.mem_cons_of_mem _ hother), h.forms⟩
      cases opening with
      | quote => exact ih houter (speaks_quoted hquote hform)
      | list items =>
          refine ⟨fun other hother item hitem => ?_, h.forms⟩
          rcases List.mem_cons.mp hother with rfl | hother
          · rcases List.mem_cons.mp hitem with rfl | hitem
            · exact hform
            · exact h.openings _ List.mem_cons_self item hitem
          · exact houter.openings other hother item hitem

theorem speaks_open {state : State} (h : state.Speaks spoken) {opening : Opening}
    (hitems : opening.items = []) :
    State.Speaks spoken ⟨opening :: state.openings, state.forms⟩ := by
  refine ⟨fun other hother item hitem => ?_, h.forms⟩
  rcases List.mem_cons.mp hother with rfl | hother
  · rw [hitems] at hitem
    cases hitem
  · exact h.openings other hother item hitem

theorem speaks_step (hquote : spoken "QUOTE") {limit : Nat} {state after : State} {token : Token}
    (h : state.Speaks spoken) (htoken : ∀ name, token = .symbol name → spoken name)
    (hstep : Steps limit state token after) : after.Speaks spoken := by
  cases hstep with
  | opening _ => exact speaks_open h rfl
  | quote _ => exact speaks_open h rfl
  | number _ => exact speaks_deliver hquote h (Form.speaks_number spoken _)
  | string _ => exact speaks_deliver hquote h (Form.speaks_string spoken _)
  | symbol _ => exact speaks_deliver hquote h (Form.speaks_symbol_iff.mpr (htoken _ rfl))
  | closing hopenings =>
      have hmem := h.openings
      rw [hopenings] at hmem
      refine speaks_deliver hquote
        ⟨fun other hother => hmem other (List.mem_cons_of_mem _ hother), h.forms⟩
        (Form.speaks_list_iff.mpr fun item hitem => ?_)
      exact hmem _ List.mem_cons_self item (List.mem_reverse.mp hitem)

/-- A form mentions only symbols of its text and the name that stands for a quote mark. -/
theorem speaks_of_readText (hquote : spoken "QUOTE") {limit : Nat} {input : String}
    {read : List Form} (h : readText limit input = .ok read)
    (htokens : ∀ tokens, Token.tokenize input = .ok tokens →
      ∀ name, .symbol name ∈ tokens → spoken name) : ∀ form ∈ read, form.Speaks spoken := by
  obtain ⟨tokens, htokenize, hforms⟩ := readText_eq_ok_iff.mp h
  obtain ⟨found, hfold, rfl⟩ := forms_eq_ok_iff.mp hforms
  have hstart : State.start.Speaks spoken :=
    ⟨fun _ hopening => (nomatch hopening), fun _ hform => (nomatch hform)⟩
  have hspeaks := holds_of_foldlM
    (P := fun before state => (∀ name, .symbol name ∈ before → spoken name) → state.Speaks spoken)
    (fun _ => hstart)
    (fun hbefore hstep hnames => speaks_step hquote
      (hbefore fun name hname => hnames name (List.mem_append_left _ hname))
      (fun name hname => hnames name (by simp [hname])) hstep)
    hfold (htokens tokens htokenize)
  exact fun form hform => hspeaks.forms form (List.mem_reverse.mp hform)

end DraftLisp.Reader
