import Mathlib.Data.List.Nodup
import PropertyMacros.Json
import PropertyMacros.Proofs.Text.Escaping

/-!
The text of a JSON value tells the value. The first character tells its kind, and what stands inside
is read off from the left, since no text can close the quotes around it and each further line of an
array or an object begins with a comma. The induction is on the value, one lemma for each kind.
-/

namespace PropertyMacros.Json

open Text

/-! ## Strings -/

/-- The characters that a JSON string has a letter for. -/
def letters : List (Char × Char) :=
  [('"', '"'), ('\\', '\\'), ('\x08', 'b'), ('\t', 't'), ('\n', 'n'), ('\x0c', 'f'), ('\r', 'r')]

theorem areLetters_letters : AreLetters letters := by
  constructor <;> decide

/-- A number in hexadecimal digits, four of them at least. -/
def fourDigits (n : Nat) : List Char :=
  List.replicate (4 - (Nat.toDigits 16 n).length) '0' ++ Nat.toDigits 16 n

theorem length_fourDigits {n : Nat} (h : n < 32) : (fourDigits n).length = 4 := by
  have hlength : ∀ n < 32, (fourDigits n).length = 4 := by decide
  exact hlength n h

theorem eq_of_fourDigits_eq {m n : Nat} (hm : m < 32) (hn : n < 32)
    (h : fourDigits m = fourDigits n) : m = n := by
  have hnodup : ((List.range 32).map fourDigits).Nodup := by decide
  exact List.inj_on_of_nodup_map hnodup (List.mem_range.mpr hm) (List.mem_range.mpr hn) h

/-- The number of a control character, as it stands in a JSON string. -/
def IsControlNumber (c : Char) (digits : List Char) : Prop :=
  c < ' ' ∧ digits = fourDigits c.toNat

theorem isEscape_escapeChar (c : Char) :
    IsEscape letters IsControlNumber c (escapeChar c) := by
  refine .of_letters (by decide) fun hne => ?_
  simp only [letters, List.forall_mem_cons, List.not_mem_nil, false_imp_iff, implies_true,
    and_true] at hne
  obtain ⟨hquote, hbackslash, hback, htab, hnewline, hfeed, hreturn⟩ := hne
  rw [escapeChar, if_neg hquote, if_neg hbackslash, if_neg hback, if_neg htab, if_neg hnewline,
    if_neg hfeed, if_neg hreturn]
  split
  · next hcontrol => exact .number ⟨hcontrol, rfl⟩
  · next hcontrol => exact .itself (Char.not_lt.mp hcontrol) hbackslash hquote

theorem isPrefixCode_escapeChar : IsPrefixCode escapeChar := by
  intro c c' rest rest' heq
  refine (isEscape_escapeChar c).append_inj (isEscape_escapeChar c') areLetters_letters ?_ heq
  rintro _ _ ⟨hc, rfl⟩ ⟨hc', rfl⟩ hdigits
  have hlt {c : Char} (h : c < ' ') : c.toNat < 32 := h
  have hlength : (fourDigits c.toNat).length = (fourDigits c'.toNat).length := by
    rw [length_fourDigits (hlt hc), length_fourDigits (hlt hc')]
  obtain ⟨hnumber, hrest⟩ := List.append_inj hdigits hlength
  exact ⟨Char.toNat_inj.mp (eq_of_fourDigits_eq (hlt hc) (hlt hc') hnumber), hrest⟩

theorem isPrefixCode_quote : IsPrefixCode quote := by
  intro text text' rest rest' heq
  obtain ⟨hchars, hrest⟩ :=
    IsEscape.isPrefixCode_quoted isEscape_escapeChar isPrefixCode_escapeChar heq
  exact ⟨String.toList_injective hchars, hrest⟩

/-! ## Arrays and objects -/

/-- What stands between the brackets of an array or an object: its items on lines of their own. -/
def body {α : Type} (depth : Nat) (word : α → List Char) : List α → List Char
  | [] => []
  | item :: items =>
    lineAt (depth + 1) ++ word item ++
      items.flatMap (fun item => ',' :: (lineAt (depth + 1) ++ word item)) ++ lineAt depth

/-- A member of an object on its line. -/
def renderMember (depth : Nat) (member : String × Json) : List Char :=
  quote member.1 ++ ':' :: ' ' :: render depth member.2

theorem renderElements_eq (depth : Nat) (elements : List Json) :
    renderElements depth elements =
      elements.flatMap fun element => ',' :: (lineAt depth ++ render depth element) := by
  induction elements with
  | nil => rfl
  | cons element elements ih => rw [renderElements, ih, List.flatMap_cons]; rfl

theorem renderMembers_eq (depth : Nat) (members : List (String × Json)) :
    renderMembers depth members =
      members.flatMap fun member => ',' :: (lineAt depth ++ renderMember depth member) := by
  induction members with
  | nil => rfl
  | cons member members ih =>
      rw [renderMembers, ih, List.flatMap_cons, renderMember]
      simp only [List.append_assoc, List.cons_append]

theorem render_array (depth : Nat) (elements : List Json) :
    render depth (array elements) = '[' :: (body depth (render (depth + 1)) elements ++ [']']) := by
  cases elements with
  | nil => rw [render]; rfl
  | cons element elements =>
      rw [render, renderElements_eq]
      rfl

theorem render_object (depth : Nat) (members : List (String × Json)) :
    render depth (object members) =
      '\x7b' :: (body depth (renderMember (depth + 1)) members ++ ['\x7d']) := by
  cases members with
  | nil => rw [render]; rfl
  | cons member members =>
      rw [render, renderMembers_eq, body, renderMember]
      simp only [List.append_assoc, List.cons_append]

/-- Items that are read off one by one are read off as a whole, as soon as it is seen where they
end. -/
theorem body_append_cons_inj {α : Type} {depth : Nat} {word : α → List Char} {items items' : List α}
    (h : ∀ a ∈ items, IsRead word a) {close : Char} (hclose : close ≠ '\n')
    {rest rest' : List Char}
    (heq : body depth word items ++ close :: rest = body depth word items' ++ close :: rest') :
    items = items' ∧ rest = rest' := by
  cases items with
  | nil =>
      cases items' with
      | nil => exact ⟨rfl, (List.cons.inj heq).2⟩
      | cons b items' => exact absurd (List.cons.inj heq).1 hclose
  | cons a items =>
      cases items' with
      | nil => exact absurd (List.cons.inj heq).1.symm hclose
      | cons b items' =>
          rw [List.forall_mem_cons] at h
          simp only [body, List.append_assoc, List.append_cancel_left_eq] at heq
          obtain ⟨rfl, hrow⟩ := h.1 heq
          -- Each further item begins with a comma, and the last line with a line feed.
          have hline : ∀ a ∈ items, IsRead (fun a => ',' :: (lineAt (depth + 1) ++ word a)) a := by
            intro a ha b rest rest' heq
            simp only [List.cons_append, List.append_assoc, List.cons.injEq, true_and,
              List.append_cancel_left_eq] at heq
            exact h.2 a ha heq
          obtain ⟨rfl, hend⟩ := flatMap_append_cons_inj (fun _ => List.cons_ne_nil _ _)
            (fun _ hhead => absurd (Option.some.inj hhead) (by decide)) hline hrow
          exact ⟨rfl, (List.cons.inj (List.append_cancel_left hend)).2⟩

/-! ## Values -/

/-- The first character of the text of a value. -/
def initial : Json → Char
  | null => 'n'
  | bool true => 't'
  | bool false => 'f'
  | string _ => '"'
  | array _ => '['
  | object _ => '\x7b'

theorem head?_render (depth : Nat) (v : Json) : (render depth v).head? = some v.initial := by
  cases v with
  | null => rfl
  | bool value => cases value <;> rfl
  | string text => rfl
  | array elements => rw [render_array]; rfl
  | object members => rw [render_object]; rfl

/-- Two values of one kind, the truth values being of different kinds. -/
inductive SameKind : Json → Json → Prop where
  | null : SameKind null null
  | bool (value : Bool) : SameKind (bool value) (bool value)
  | string (text text' : String) : SameKind (string text) (string text')
  | array (elements elements' : List Json) : SameKind (array elements) (array elements')
  | object (members members' : List (String × Json)) : SameKind (object members) (object members')

theorem sameKind_of_initial_eq {v w : Json} (h : v.initial = w.initial) : SameKind v w := by
  rcases v with _ | (_ | _) | _ | _ | _ <;> rcases w with _ | (_ | _) | _ | _ | _ <;>
    first
    | constructor
    | simp [initial] at h

theorem sameKind_of_render_append_eq {depth : Nat} {v w : Json} {rest rest' : List Char}
    (h : render depth v ++ rest = render depth w ++ rest') : SameKind v w := by
  have hhead := congrArg List.head? h
  rw [List.head?_append, List.head?_append, head?_render, head?_render] at hhead
  exact sameKind_of_initial_eq (Option.some.inj hhead)

theorem isRead_null (depth : Nat) : IsRead (render depth) null := by
  intro w rest rest' heq
  cases sameKind_of_render_append_eq heq with
  | null => exact ⟨rfl, List.append_cancel_left heq⟩

theorem isRead_bool (depth : Nat) (value : Bool) : IsRead (render depth) (bool value) := by
  intro w rest rest' heq
  cases sameKind_of_render_append_eq heq with
  | bool => exact ⟨rfl, List.append_cancel_left heq⟩

theorem isRead_string (depth : Nat) (text : String) : IsRead (render depth) (string text) := by
  intro w rest rest' heq
  cases sameKind_of_render_append_eq heq with
  | string _ text' =>
      obtain ⟨rfl, hrest⟩ := isPrefixCode_quote heq
      exact ⟨rfl, hrest⟩

theorem isRead_array {depth : Nat} {elements : List Json}
    (h : ∀ element ∈ elements, IsRead (render (depth + 1)) element) :
    IsRead (render depth) (array elements) := by
  intro w rest rest' heq
  cases sameKind_of_render_append_eq heq with
  | array _ elements' =>
      simp only [render_array, List.cons_append, List.append_assoc, List.nil_append] at heq
      obtain ⟨rfl, hrest⟩ := body_append_cons_inj h (by decide) (List.cons.inj heq).2
      exact ⟨rfl, hrest⟩

theorem isRead_renderMember {depth : Nat} {member : String × Json}
    (h : IsRead (render depth) member.2) : IsRead (renderMember depth) member := by
  intro member' rest rest' heq
  simp only [renderMember, List.append_assoc, List.cons_append] at heq
  obtain ⟨hkey, hvalue⟩ := isPrefixCode_quote heq
  obtain ⟨hvalue, hrest⟩ := h (List.cons.inj (List.cons.inj hvalue).2).2
  exact ⟨Prod.ext hkey hvalue, hrest⟩

theorem isRead_object {depth : Nat} {members : List (String × Json)}
    (h : ∀ member ∈ members, IsRead (render (depth + 1)) member.2) :
    IsRead (render depth) (object members) := by
  intro w rest rest' heq
  cases sameKind_of_render_append_eq heq with
  | object _ members' =>
      simp only [render_object, List.cons_append, List.append_assoc, List.nil_append] at heq
      obtain ⟨rfl, hrest⟩ := body_append_cons_inj (fun member hmember =>
        isRead_renderMember (h member hmember)) (by decide) (List.cons.inj heq).2
      exact ⟨rfl, hrest⟩

/-- Every value is read off from its text, whatever follows. -/
theorem isRead_render (depth : Nat) : (v : Json) → IsRead (render depth) v
  | null => isRead_null depth
  | bool value => isRead_bool depth value
  | string text => isRead_string depth text
  | array elements => isRead_array fun element _ => isRead_render (depth + 1) element
  | object members => isRead_object fun (_, value) _ => isRead_render (depth + 1) value
termination_by v => v
decreasing_by
  · decreasing_tactic
  · next hmember =>
    have hsize := List.sizeOf_lt_of_mem hmember
    simp only [Prod.mk.sizeOf_spec] at hsize
    simp only [object.sizeOf_spec]
    omega

/-- A value can be read off from its text. -/
theorem pretty_injective : Function.Injective pretty := by
  intro v w h
  have htext : render 0 v ++ [] = render 0 w ++ [] := by
    rw [List.append_nil, List.append_nil]
    exact String.ofList_injective h
  exact (isRead_render 0 v htext).1

theorem ofOption_injective : Function.Injective ofOption := by
  rintro (_ | text) (_ | text') h
  · rfl
  · cases h
  · cases h
  · cases h
    rfl

end PropertyMacros.Json
