import ProcedureAtlas.Proofs.Playback

/-!
# Printers that are used again

A printer that has printed before, or has failed in the middle of a tree, goes on with what its
calls have left: the lines it has sent, and the count, which a failure leaves where it stood. A call
begins a stack of its own and makes the same events whatever the count is. So it sends the lines
that a fresh printer would send and ends as that one does. What it returns is the difference of two
counts; the count has grown by one for each line, also in the calls that failed, so the difference
is the number of lines that this call has sent.
-/

namespace ProcedureAtlas.Printer

set_option autoImplicit false

variable {catalog : Catalog}

/-- The printer that has printed trees one after the other, also behind one that failed. -/
def printEach (printer : Printer) (catalog : Catalog) (starts : List catalog.Entry) : Printer :=
  starts.foldl (fun used start => (used.print catalog start).1) printer

/-- What holds of a printer between its calls. -/
structure IsUsed (printer : Printer) (style : Style) : Prop where
  styled : printer.style = style
  counted : printer.count = printer.printed.length

theorem isUsed_fresh (style : Style) : IsUsed { style := style } style :=
  ⟨rfl, rfl⟩

theorem IsUsed.print {printer : Printer} {style : Style} (used : printer.IsUsed style)
    (start : catalog.Entry) : (printer.print catalog start).1.IsUsed style := by
  rw [print_eq]
  refine ⟨used.styled, ?_⟩
  rw [List.length_append, used.counted, Walk.lines, List.length_map]

theorem IsUsed.printEach {printer : Printer} {style : Style} (used : printer.IsUsed style)
    (starts : List catalog.Entry) : (printer.printEach catalog starts).IsUsed style := by
  induction starts generalizing printer with
  | nil => exact used
  | cons start starts ih => exact ih (used.print start)

/-- Two printers of one style send the same lines for a start, add as many to their counts and
return the same. -/
theorem print_alike {printer other : Printer} (alike : other.style = printer.style)
    (start : catalog.Entry) :
    ∃ sent, (printer.print catalog start).1.printed = printer.printed ++ sent ∧
      (other.print catalog start).1.printed = other.printed ++ sent ∧
      (printer.print catalog start).1.count = printer.count + sent.length ∧
      (printer.print catalog start).2 = (other.print catalog start).2 ∧
      ∀ count, (printer.print catalog start).2 = .ok count → count = sent.length := by
  refine ⟨(catalog.walk start).lines printer.style, print_lines printer start, ?_, ?_, ?_, ?_⟩
  · rw [print_lines, alike]
  · rw [print_eq, Walk.lines, List.length_map]
  · rw [print_result, print_result]
  · intro count success
    rw [print_result] at success
    rw [Walk.lines, List.length_map]
    cases stopped : (catalog.walk start).failure with
    | some failure => simp [stopped] at success
    | none => simpa [stopped] using success.symm

/-- After any calls, failed ones among them, the next call sends exactly the lines that a fresh
printer sends and ends as that one does. The count has been advanced once for each line ever sent.
If the call succeeds it returns the number of lines that it has sent itself. -/
theorem history_never_matters (catalog : Catalog) (style : Style) (earlier : List catalog.Entry)
    (start : catalog.Entry) :
    let used := printEach { style := style } catalog earlier
    let call := used.print catalog start
    let fresh := print { style := style } catalog start
    ∃ sent, fresh.1.printed = sent ∧ call.1.printed = used.printed ++ sent ∧
      call.2 = fresh.2 ∧
      used.count = used.printed.length ∧ call.1.count = used.count + sent.length ∧
      ∀ count, call.2 = .ok count → count = sent.length := by
  intro used call fresh
  have usage : used.IsUsed style := (isUsed_fresh style).printEach earlier
  obtain ⟨sent, sends, freshSends, advanced, same, counts⟩ :=
    @print_alike catalog used { style := style } usage.styled.symm start
  exact ⟨sent, freshSends, sends, same, usage.counted, advanced, counts⟩

end ProcedureAtlas.Printer
