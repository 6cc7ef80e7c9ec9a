import DesignBridge.Text.Directive.Fill

/-! # What directives write

A directive without a layout writes a text as it is, and a natural number in its digits. A character
outside of any directive stands for itself.
-/

namespace DesignBridge.Text

/-- Without a width nothing is laid out. -/
theorem place_plain (cs : List Char) : ({} : Layout).place cs = cs :=
  have hwidth : ({} : Layout).width ≤ cs.length := Nat.zero_le _
  Layout.place_eq_self hwidth

theorem writeInt_plain (n : Nat) :
    Form.writeInt {} 10 [] false n = .ok (.number false [] (Nat.toDigits 10 n)) := by
  unfold Form.writeInt
  simp [Form.cased]

namespace Filling

variable {named : Option Json.Members} {rest : List Json} {written : List Char}

theorem foldlM_step_cons {f g : Filling} {next : Step} (h : f.step next = .ok g)
    (steps : List Step) : (next :: steps).foldlM step f = steps.foldlM step g := by
  rw [List.foldlM_cons, h]
  rfl

theorem foldlM_char {waiting : List Json} (c : Char) (steps : List Step) :
    (.char c :: steps).foldlM step ⟨named, waiting, {}, written⟩ =
      steps.foldlM step ⟨named, waiting, {}, c :: written⟩ :=
  foldlM_step_cons rfl steps

/-- A text is written as it is. -/
theorem foldlM_text (s : String) (index : Nat) (steps : List Step) :
    (.write 's' index :: steps).foldlM step ⟨named, .text s :: rest, {}, written⟩ =
      steps.foldlM step ⟨named, rest, {}, s.toList.reverse ++ written⟩ := by
  have hshown : (Runes.ofString s).list.map Rune.shown = s.toList := by
    rw [Runes.list_ofString, List.map_map]
    exact List.map_id _
  have hstep : step ⟨named, .text s :: rest, {}, written⟩ (.write 's' index) =
      .ok ⟨named, rest, {}, (({} : Layout).place
        ((Runes.ofString s).list.map Rune.shown)).reverse ++ written⟩ := rfl
  refine foldlM_step_cons ?_ steps
  rw [hstep, hshown, place_plain]

/-- The digits of a number are written. -/
theorem foldlM_nat (n index : Nat) (steps : List Step) :
    (.write 'd' index :: steps).foldlM step ⟨named, .number (.int n) :: rest, {}, written⟩ =
      steps.foldlM step ⟨named, rest, {}, (Nat.toDigits 10 n).reverse ++ written⟩ := by
  have hwrite : Form.write {} 'd' (.number (.int n)) .integer =
      .ok (.number false [] (Nat.toDigits 10 n)) := writeInt_plain n
  have hstep : step ⟨named, .number (.int n) :: rest, {}, written⟩ (.write 'd' index) =
      (Form.write {} 'd' (.number (.int n)) .integer).bind fun content =>
        .ok ⟨named, rest, {}, (({} : Layout).write content).reverse ++ written⟩ := rfl
  refine foldlM_step_cons ?_ steps
  rw [hstep, hwrite]
  exact congrArg (fun cs : List Char =>
    Except.ok (Filling.mk named rest {} (cs.reverse ++ written))) (place_plain (Nat.toDigits 10 n))

end Filling

end DesignBridge.Text
