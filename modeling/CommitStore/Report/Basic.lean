import CommitStore.Object.Commit
import CommitStore.Report.Markup
import CommitStore.Report.Table
import CommitStore.Report.Wrap
import CommitStore.Sweep
set_option autoImplicit false

/-!
# Reports

What the command line shows of a sweep, of the pins, of a history and of an error. A report is laid
out for a console of a given width; a console without any width shows nothing. Names, messages and
errors are shown as they are; ids and the fixed words are written in markup.
-/

namespace CommitStore
namespace Report

/-- A report, or the fault of the markup in it. -/
abbrev Result := Except Markup.Fault String

/-- Lines, each with its end. -/
def unlines (lines : List (List Char)) : String :=
  String.ofList (lines.flatMap fun line => line ++ ['\n'])

/-- A running text in markup. -/
def paragraph (width : Nat) (markup : List Char) : Result := do
  let shown ← Markup.render markup
  if width = 0 then return ""
  return unlines (← Markup.settleLines width false (Wrap.running width shown))

/-- The columns of a table for measuring, with what their cells show. The cells of a column with a
fixed width are not needed. -/
def measured (column : Table.Column (List Char)) :
    Except Markup.Fault (Table.Column (List Char)) := do
  if column.fixed.isSome then return column
  return { column with body := ← column.body.mapM fun markup => (·.chars) <$> Markup.render markup }

/-- The lines of a cell in a column of `width` cells. A cell without room has no lines, and is not
looked at. -/
def cellLines (width : Nat) (padding : Table.Padding) (cell : Except Markup.Fault Styled) :
    Except Markup.Fault (List (List Char)) := do
  if width ≤ padding.total then return []
  let inner := width - padding.total
  let lines ← Markup.settleLines inner true (Wrap.boxed inner (← cell))
  return lines.map fun line => Text.blanks padding.left ++ line ++ Text.blanks padding.right

/-- A table whose cells are given in markup. -/
def table (width : Nat) (columns : List (Table.Column (List Char))) : Result :=
  if width = 0 then .ok ""
  else do
    let shown := Table.withPadding (← columns.mapM measured)
    let layout := (Table.withPadding columns).zip (Table.columnWidths width shown)
    let header ← layout.mapM fun ((column, padding), room) =>
      return (room, ← cellLines room padding (.ok (.plain column.header)))
    let rows ← (List.range (Table.rowCount columns)).mapM fun index =>
      layout.mapM fun ((column, padding), room) =>
        return (room, ← cellLines room padding (Markup.render (column.body.getD index [])))
    return unlines (Table.drawRow true header ++ rows.flatMap (Table.drawRow false))

/-! ## 1. Sweeps -/

/-- The counts of a sweep in one sentence. -/
def sweepSentence (scanned deleted skipped : Int) : String :=
  "Scanned [cyan]" ++ toString scanned ++ "[/cyan] references, deleted [green]" ++
    toString deleted ++ "[/green], skipped [dim]" ++ toString skipped ++ "[/dim]"

/-- The line of a deleted pin. -/
def deletedLine (name : RefName) : List Char :=
  "  [red]deleted[/red] ".toList ++ Markup.escape name

/-- Texts one after the other, up to the first fault. -/
def concat : List Result → Result
  | [] => .ok ""
  | first :: rest => do
    let text ← first
    return text ++ (← concat rest)

/-- What a sweep did, and if asked for which pins it deleted. -/
def sweep (width : Nat) (scanned skipped : Int) (deleted : List RefName) (listsNames : Bool) :
    Result :=
  concat (paragraph width (sweepSentence scanned deleted.length skipped).toList ::
    if listsNames then deleted.map fun name => paragraph width (deletedLine name) else [])

/-! ## 2. Pins and histories -/

/-- How much of an id a table of pins shows. -/
def pinOidWidth : Nat := 12

/-- How much of an id a history shows. -/
def historyOidWidth : Nat := 8

/-- The word for whether the commit of a pin is visible. -/
def stateMarkup (visible : Bool) : List Char :=
  (if visible then "[green]visible[/green]" else "[red]dangling[/red]").toList

/-- The pins as a table. -/
def pins (width : Nat) (pins : List Pin.Listed) : Result :=
  if pins.isEmpty then paragraph width "[dim]No pinned commits.[/dim]".toList
  else
    table width
      [⟨some pinOidWidth, "Commit".toList,
          pins.map fun p => (Oid.abbreviate pinOidWidth p.commit).toList⟩,
        ⟨none, "State".toList, pins.map fun p => stateMarkup p.visible⟩,
        ⟨none, "Reference".toList, pins.map fun p => Markup.escape p.ref⟩]

/-- A history as a table. -/
def history (width : Nat) (commits : List CommitInfo) : Result :=
  if commits.isEmpty then paragraph width "[dim]No commits.[/dim]".toList
  else
    table width
      [⟨some historyOidWidth, "Commit".toList,
          commits.map fun c => (Oid.abbreviate historyOidWidth c.oid).toList⟩,
        ⟨none, "Time".toList, commits.map fun c => c.createdAt.toMinute.toList⟩,
        ⟨none, "Message".toList, commits.map fun c => Markup.escape (c.message.getD "")⟩]

/-! ## 3. Errors -/

/-- An error. -/
def error (width : Nat) (message : String) : Result :=
  paragraph width ("[red]Error:[/red] ".toList ++ Markup.escape message)

end Report
end CommitStore
