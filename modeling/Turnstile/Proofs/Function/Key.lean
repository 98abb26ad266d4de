import Turnstile.Function.ResultCache
import Turnstile.Proofs.Json.Text

/-! The key of a result tells the function and the arguments, whatever characters the function has in its name:
an opening parenthesis that belongs to the arguments is inside a string. -/
namespace Turnstile

/-- Where a text has got to: outside of strings, inside of one, or behind a backslash in one. -/
inductive QuoteState where
  | outside
  | inside
  | escaped
deriving DecidableEq

namespace QuoteState

/-- Outside of strings there is neither a backslash nor an opening parenthesis. -/
def next (p : QuoteState) (c : Char) : Option QuoteState :=
  match p with
  | outside => if c = '"' then some inside else if c = '\\' ∨ c = '(' then none else some outside
  | inside => if c = '"' then some outside else if c = '\\' then some escaped else some inside
  | escaped => some inside

def after (p : QuoteState) (text : List Char) : Option QuoteState := text.foldlM next p

/-- The text holds whole strings only. -/
def Balanced (text : List Char) : Prop := outside.after text = some outside

theorem after_cons (p : QuoteState) (c : Char) (text : List Char) :
    p.after (c :: text) = (p.next c).bind (·.after text) := List.foldlM_cons

theorem after_append (p : QuoteState) (a b : List Char) :
    p.after (a ++ b) = (p.after a).bind (·.after b) := List.foldlM_append

theorem Balanced.append {a b : List Char} (ha : Balanced a) (hb : Balanced b) : Balanced (a ++ b) := by
  rw [Balanced, after_append, ha, Option.bind_some]
  exact hb

theorem balanced_of_forall {text : List Char} (h : ∀ c ∈ text, outside.next c = some outside) :
    Balanced text := by
  induction text with
  | nil => rfl
  | cons c text ih =>
    rw [Balanced, after_cons, h c List.mem_cons_self, Option.bind_some]
    exact ih fun d hd => h d (List.mem_cons_of_mem c hd)

theorem balanced_intercalate {α : Type} {f : α → List Char} {separator : List Char}
    (hseparator : Balanced separator) {l : List α} (h : ∀ a ∈ l, Balanced (f a)) :
    Balanced (List.intercalate separator (l.map f)) := by
  induction l with
  | nil => rfl
  | cons a l ih =>
    have ha := h a List.mem_cons_self
    have ih := ih fun b hb => h b (List.mem_cons_of_mem a hb)
    cases l with
    | nil =>
      rw [List.map_cons, List.map_nil, List.intercalate_singleton]
      exact ha
    | cons b l =>
      rw [List.map_cons, List.map_cons, List.intercalate_cons_cons]
      exact (ha.append hseparator).append ih

/-- Read from outside and from inside of a string, a text never gets to the same place: the quotes that
open strings for one reader close them for the other. -/
theorem after_ne {text : List Char} {p q : QuoteState} (houtside : outside.after text = some p)
    (hinside : inside.after text = some q) : p ≠ q := by
  induction text generalizing p q with
  | nil =>
    obtain rfl := Option.some.inj houtside
    obtain rfl := Option.some.inj hinside
    exact QuoteState.noConfusion
  | cons c text ih =>
    rw [after_cons] at houtside hinside
    by_cases hquote : c = '"'
    · subst hquote
      exact (ih hinside houtside).symm
    · by_cases hescape : c = '\\' ∨ c = '('
      · rw [next, if_neg hquote, if_pos hescape] at houtside
        cases houtside
      · rw [next, if_neg hquote, if_neg hescape] at houtside
        rw [next, if_neg hquote, if_neg (not_or.mp hescape).1] at hinside
        exact ih houtside hinside

private theorem after_escapeChar (c : Char) : inside.after (Json.escapeChar c) = some inside := by
  have hhex : ∀ n < 16, inside.next (Json.hexDigit n) = some inside := by decide
  rw [Json.escapeChar.eq_def]
  split
  · rfl
  · rfl
  · rfl
  · rfl
  · rfl
  · rfl
  · rfl
  · next hquote hbackslash _ _ _ _ _ =>
    split
    · next hcontrol =>
      have hhigh := hhex (c.toNat / 16) (by omega)
      have hlow := hhex (c.toNat % 16) (by omega)
      change ((inside.next (Json.hexDigit (c.toNat / 16))).bind (·.after [_])) = some inside
      rw [hhigh, Option.bind_some, after_cons, hlow]
      rfl
    · rw [after_cons, next, if_neg hquote, if_neg hbackslash]
      rfl

private theorem after_flatMap_escapeChar (l : List Char) :
    inside.after (l.flatMap Json.escapeChar) = some inside := by
  induction l with
  | nil => rfl
  | cons c l ih => rw [List.flatMap_cons, after_append, after_escapeChar, Option.bind_some, ih]

theorem balanced_quote (s : String) : Balanced (Json.quote s) := by
  rw [Balanced, Json.quote, after_cons]
  change inside.after _ = _
  rw [after_append, after_flatMap_escapeChar]
  rfl

theorem balanced_renderNumber (n : Number) : Balanced (Json.renderNumber n) := by
  refine balanced_of_forall fun c hc => ?_
  have hmark := Json.isMark_renderNumber n c hc
  have hquote : c ≠ '"' := fun h => absurd hmark (by rw [h]; decide)
  have hescape : ¬ (c = '\\' ∨ c = '(') := by
    rintro (rfl | rfl)
    · exact absurd hmark (by decide)
    · exact absurd hmark (by decide)
  rw [next, if_neg hquote, if_neg hescape]

private theorem balanced_comma : Balanced [','] := rfl

mutual
/-- The text of a value holds whole strings only. -/
theorem balanced_render : (v : Json) → Balanced v.render
  | .null => rfl
  | .bool true => rfl
  | .bool false => rfl
  | .number n => balanced_renderNumber n
  | .string s => balanced_quote s
  | .array items => by
    have hopen : Balanced ['['] := rfl
    have hitems := balanced_intercalate balanced_comma (balanced_items items)
    rw [← Json.renderItems_eq] at hitems
    rw [Json.render]
    exact hopen.append (hitems.append rfl)
  | .object members => by
    have hopen : Balanced ['\x7b'] := rfl
    have hmembers := balanced_intercalate balanced_comma (balanced_members members)
    rw [← Json.renderMembers_eq] at hmembers
    rw [Json.render]
    exact hopen.append (hmembers.append rfl)

theorem balanced_items : (l : List Json) → ∀ v ∈ l, Balanced v.render
  | [], _, hv => nomatch hv
  | w :: l, v, hv => by
    rcases List.mem_cons.mp hv with hvw | hv
    · rw [hvw]
      exact balanced_render w
    · exact balanced_items l v hv

theorem balanced_members : (l : List (String × Json)) → ∀ e ∈ l, Balanced (Json.renderMember e)
  | [], _, he => nomatch he
  | (name, v) :: l, e, he => by
    rcases List.mem_cons.mp he with hev | he
    · rw [hev]
      have hcolon : Balanced [':'] := rfl
      exact (balanced_quote name).append (hcolon.append (balanced_render v))
    · exact balanced_members l e he
end

end QuoteState

namespace ResultCache
open QuoteState

/-- The arguments as they stand in a key. -/
def argumentsText (args : List Json) : List Char := List.intercalate [',', ' '] (args.map Json.render)

theorem toList_key (name : String) (args : List Json) :
    (key name args).toList = name.toList ++ '(' :: (argumentsText args ++ [')']) := String.toList_ofList

theorem balanced_argumentsText (args : List Json) : Balanced (argumentsText args) :=
  have hseparator : Balanced [',', ' '] := rfl
  balanced_intercalate hseparator fun v _ => balanced_render v

theorem argumentsText_injective {args args' : List Json} (h : argumentsText args = argumentsText args') :
    args = args' := by
  have hstart (v : Json) (r s : List Char) : v.render ++ r ≠ ')' :: s :=
    Json.render_append_ne (by decide) v r s
  have hclosed : argumentsText args ++ [')'] = argumentsText args' ++ [')'] := congrArg (· ++ [')']) h
  exact (Json.intercalate_append_inj rfl rfl (by decide) hstart (fun v _ => Json.readable_render v)
    hclosed).1

/-- No name reaches into the arguments: the parenthesis behind it would have to be inside a string of one
reading, and the rest of the text would end inside a string of the other. -/
private theorem eq_nil_of_opens {a b name : List Char} (ha : Balanced a) (hb : Balanced b)
    (h : '(' :: (a ++ [')']) = name ++ '(' :: (b ++ [')'])) : name = [] := by
  cases name with
  | nil => rfl
  | cons c name =>
    have htail : a ++ [')'] = name ++ '(' :: b ++ [')'] := by
      rw [List.append_assoc]
      exact List.tail_eq_of_cons_eq h
    have htext : a = name ++ '(' :: b := List.append_cancel_right htail
    rw [htext, QuoteState.Balanced, after_append] at ha
    cases hp : outside.after name with
    | none =>
      rw [hp] at ha
      cases ha
    | some p =>
      rw [hp, Option.bind_some, after_cons] at ha
      cases p with
      | outside => cases ha
      | inside => exact absurd rfl (after_ne hb ha)
      | escaped => exact absurd rfl (after_ne hb ha)

/-- Different calls have different keys. -/
theorem key_inj {name name' : String} {args args' : List Json} (h : key name args = key name' args') :
    name = name' ∧ args = args' := by
  have htext : name.toList ++ '(' :: (argumentsText args ++ [')']) =
      name'.toList ++ '(' :: (argumentsText args' ++ [')']) := String.ofList_inj.mp h
  have hname : name.toList = name'.toList := by
    rcases List.append_eq_append_iff.mp htext with ⟨extra, hlonger, hrest⟩ | ⟨extra, hlonger, hrest⟩
    · have hnil := eq_nil_of_opens (balanced_argumentsText args) (balanced_argumentsText args') hrest
      rw [hlonger, hnil, List.append_nil]
    · have hnil := eq_nil_of_opens (balanced_argumentsText args') (balanced_argumentsText args) hrest
      rw [hlonger, hnil, List.append_nil]
  rw [hname] at htext
  have hargs := List.append_cancel_right (List.tail_eq_of_cons_eq (List.append_cancel_left htext))
  exact ⟨String.toList_inj.mp hname, argumentsText_injective hargs⟩

theorem isCallOf_iff {name k : String} : isCallOf name k = true ↔ ∃ rest, k.toList = name.toList ++ '(' :: rest := by
  rw [isCallOf, List.isPrefixOf_iff_prefix]
  constructor
  · rintro ⟨rest, hrest⟩
    refine ⟨rest, ?_⟩
    rw [← hrest, List.append_assoc, List.singleton_append]
  · rintro ⟨rest, hrest⟩
    refine ⟨rest, ?_⟩
    rw [hrest, List.append_assoc, List.singleton_append]

/-- A key of its own begins with the function's name, whatever the name is. -/
theorem isCallOf_key_self (name : String) (args : List Json) : isCallOf name (key name args) = true :=
  isCallOf_iff.mpr ⟨_, toList_key name args⟩

end ResultCache
end Turnstile
