import DeviceLauncher.Value.Text

/-!
# Values that have no text

A value has a text unless a whole number in it has too many digits: `Value.literal_error` and
`Value.toText_error` say that nothing else goes wrong, whatever collections the value is made of and
however they hold one another.
-/

namespace DeviceLauncher.Value

/-- Whether nothing but the digits of a whole number keeps something from having a text. -/
def OnlyTooLong {α : Type} (x : Except Failure α) : Prop := ∀ e, x = .error e → e = .longNumber

namespace OnlyTooLong

variable {α β : Type} {x : Except Failure α} {f : α → Except Failure β}

theorem ok (a : α) : OnlyTooLong (.ok a : Except Failure α) := fun _ h => nomatch h

theorem bind (hx : OnlyTooLong x) (hf : ∀ a, OnlyTooLong (f a)) : OnlyTooLong (x >>= f) := by
  intro e h
  cases x with
  | error e' =>
    cases h
    exact hx _ rfl
  | ok a => exact hf a e h

theorem wholeText (n : Int) : OnlyTooLong (wholeText n) := by
  unfold Value.wholeText
  split
  · exact .ok _
  · intro e h
    cases h
    rfl

end OnlyTooLong

mutual

theorem onlyTooLong_literalWith {knotText : Nat → Except Failure String}
    (hknot : ∀ n, OnlyTooLong (knotText n)) : (v : Value) → OnlyTooLong (literalWith knotText v)
  | null | bool _ | float _ | text _ | bytes _ | date _ | moment _ | set [] => .ok _
  | int n => .wholeText n
  | list items => (onlyTooLong_literalsWith hknot items).bind fun _ => .ok _
  | set (v :: rest) => (onlyTooLong_literalsWith hknot (v :: rest)).bind fun _ => .ok _
  | map entries => (onlyTooLong_entryLiteralsWith hknot entries).bind fun _ => .ok _
  | pair first second => (onlyTooLong_literalWith hknot first).bind fun _ =>
    (onlyTooLong_literalWith hknot second).bind fun _ => .ok _
  | knot n => hknot n

theorem onlyTooLong_literalsWith {knotText : Nat → Except Failure String}
    (hknot : ∀ n, OnlyTooLong (knotText n)) :
    (vs : List Value) → OnlyTooLong (literalsWith knotText vs)
  | [] => .ok _
  | v :: rest => (onlyTooLong_literalWith hknot v).bind fun _ =>
    (onlyTooLong_literalsWith hknot rest).bind fun _ => .ok _

theorem onlyTooLong_entryLiteralsWith {knotText : Nat → Except Failure String}
    (hknot : ∀ n, OnlyTooLong (knotText n)) :
    (entries : List (Value × Value)) → OnlyTooLong (entryLiteralsWith knotText entries)
  | [] => .ok _
  | (k, v) :: rest => (onlyTooLong_literalWith hknot k).bind fun _ =>
    (onlyTooLong_literalWith hknot v).bind fun _ =>
      (onlyTooLong_entryLiteralsWith hknot rest).bind fun _ => .ok _

end

/-- Each knot that is opened is shown by what is inside it, with one knot less to open. -/
theorem onlyTooLong_literalInside (ks : Knots) (closed : Nat) (opened : List Nat) (v : Value) :
    OnlyTooLong (literalInside ks closed opened v) := by
  induction closed generalizing opened v with
  | zero => exact onlyTooLong_literalWith (fun _ => .ok _) v
  | succ closed ih =>
    refine onlyTooLong_literalWith (fun n => ?_) v
    split
    · exact .ok _
    · exact ih _ _

/-- What is wrong with a value that cannot be shown. -/
theorem literal_error {ks : Knots} {v : Value} {e : Failure} (h : v.literal ks = .error e) :
    e = .longNumber :=
  onlyTooLong_literalInside ks _ _ v e h

/-- What is wrong with a value that has no text. -/
theorem toText_error {ks : Knots} {v : Value} {e : Failure} (h : v.toText ks = .error e) :
    e = .longNumber := by
  cases v with
  | text | date | moment => cases h
  | _ => exact literal_error h

end DeviceLauncher.Value
