import PathQuery.Proofs.Command.Effects
import PathQuery.Proofs.Json.CompactText

/-!
# The lines of a compact selection

A line feed stands between the nodes that are printed and behind the last one, and the compact
text of a node has none.  So every node is a line of its own.  Where nothing is selected the
line feed behind the last node stands alone and ends an empty line.
-/

namespace PathQuery

/-- The lines of a text, each ended by a line feed, and what stands behind the last of them. -/
def Text.lines : List Char → List (List Char) × List Char
  | [] => ([], [])
  | c :: rest =>
    if c = '\n' then ([] :: (lines rest).1, (lines rest).2)
    else
      match lines rest with
      | ([], last) => ([], c :: last)
      | (line :: others, last) => ((c :: line) :: others, last)

namespace Text

/-- A line is taken off the front of a text. -/
theorem lines_append {line : List Char} (hline : '\n' ∉ line) (rest : List Char) :
    lines (line ++ '\n' :: rest) = (line :: (lines rest).1, (lines rest).2) := by
  induction line with
  | nil => rw [List.nil_append, lines, if_pos rfl]
  | cons c line ih =>
      obtain ⟨hc, hline⟩ := not_or.1 (List.mem_cons.not.1 hline)
      rw [List.cons_append, lines, if_neg (Ne.symm hc), ih hline]

/-- Lines with line feeds between them and behind the last one; there is always a last one. -/
theorem lines_intercalate {first : List Char} {others : List (List Char)}
    (h : ∀ line ∈ first :: others, '\n' ∉ line) :
    lines (['\n'].intercalate (first :: others) ++ ['\n']) = (first :: others, []) := by
  induction others generalizing first with
  | nil =>
      rw [List.intercalate_singleton, lines_append (h first List.mem_cons_self)]
      rfl
  | cons second others ih =>
      rw [List.intercalate_cons_cons, List.append_assoc, List.append_assoc,
        List.singleton_append, lines_append (h first List.mem_cons_self),
        ih fun line hline => h line (List.mem_cons_of_mem first hline)]

end Text

namespace Command

/-- The lines of the compact texts of some nodes: one for each, or an empty one if there are
none. -/
def compactLines (nodes : List Json) : List (List Char) :=
  if nodes.isEmpty then [[]] else nodes.map Json.write

/-- The report of a compact selection, with its line feed, is made of these lines. -/
theorem lines_report (nodes : List Json) :
    Text.lines (String.intercalate "\n" (nodes.map (render true)) ++ "\n").toList =
      (compactLines nodes, []) := by
  have htexts : (nodes.map (render true)).map String.toList = nodes.map Json.write := by
    rw [List.map_map]
    exact List.map_congr_left fun node _ => String.toList_ofList
  rw [String.toList_append, String.toList_intercalate, htexts]
  cases nodes with
  | nil => rfl
  | cons node rest =>
      refine Text.lines_intercalate fun line (hline : line ∈ (node :: rest).map Json.write) => ?_
      obtain ⟨found, -, rfl⟩ := List.mem_map.1 hline
      exact found.write_printable.newline_not_mem

/-- A compact selection that succeeds prints the selected nodes, in their order, each as its
compact text on a line of its own, and nothing else.  It prints one empty line if no node is
selected. -/
theorem compact_selection_lines {arguments : List String} {task : SelectTask}
    {output : Option String} (files : Directory) (host : Host)
    (harguments : Invocation.ofArguments host.matchTime arguments = .ok ⟨.select task, output⟩)
    (hone : task.one = false) (hcompact : task.compact = true)
    (hstatus : ((perform host.system arguments).run (.fresh files)).1 = 0) :
    ∃ path text document nodes report,
      Path.parse task.path = .ok path ∧
      host.source files task.file = .ok text ∧
      Json.read text = some document ∧
      path.selectAll task.settings document = .ok nodes ∧
      Delivered host files report output
        ((perform host.system arguments).run (.fresh files)).2 ∧
      Text.lines (report ++ "\n").toList = (compactLines nodes, []) := by
  obtain ⟨report, hreports, hdelivered⟩ := (ends_of_arguments harguments _).delivered hstatus
  cases hreports with
  | @all _ path text document nodes _ hpath htext hdocument hnodes =>
      rw [← path.selectAll_eq_ok_iff] at hnodes
      refine ⟨path, text, document, nodes, _, hpath, htext, hdocument, hnodes, hdelivered, ?_⟩
      rw [hcompact]
      exact lines_report nodes
  | one htrue => exact absurd (hone.symm.trans htrue) Bool.false_ne_true

/-- The items of an array, one of them an array itself. -/
theorem compact_selection_lines_items :
    let host := Host.common "[1, [2]]"
    ((perform host.system ["select", "-c", "[*]"]).run (.fresh [])).1 = 0 ∧
      ∃ nodes report,
        Delivered host [] report none
          ((perform host.system ["select", "-c", "[*]"]).run (.fresh [])).2 ∧
        Text.lines (report ++ "\n").toList = (compactLines nodes, []) := by
  intro host
  have harguments : Invocation.ofArguments host.matchTime ["select", "-c", "[*]"] =
      .ok ⟨.select ⟨"[*]", none, false, true, {}⟩, none⟩ := rfl
  have hstatus : ((perform host.system ["select", "-c", "[*]"]).run (.fresh [])).1 = 0 := by
    decide +kernel
  obtain ⟨_, _, _, nodes, report, -, -, -, -, hdelivered, hlines⟩ :=
    compact_selection_lines [] host harguments rfl rfl hstatus
  exact ⟨hstatus, nodes, report, hdelivered, hlines⟩

/-- The lines that are printed are not always those of the selected nodes: where there is no
node there is a line. -/
theorem not_compact_line_per_node :
    ¬ ∀ (arguments : List String) (task : SelectTask) (files : Directory) (stdin : String)
      (path : Path) (document : Json) (nodes : List Json),
      Invocation.ofArguments (Host.common stdin).matchTime arguments = .ok ⟨.select task, none⟩ →
      task.one = false → task.compact = true → task.file = none →
      (run arguments files stdin).status = 0 →
      Path.parse task.path = .ok path → Json.read stdin = some document →
      path.selectAll task.settings document = .ok nodes →
      Text.lines (run arguments files stdin).stdout.toList = (nodes.map Json.write, []) := by
  intro h
  have hstatus : (run ["select", "--compact", "a"] [] "\x7b\x7d").status = 0 := by
    decide +kernel
  have hstdout : (run ["select", "--compact", "a"] [] "\x7b\x7d").stdout = "\n" := by
    decide +kernel
  have hnodes : (⟨"a", [.member (some "a")]⟩ : Path).selectAll {} (.object []) =
      .ok [] := rfl
  have hlines := h _ ⟨"a", none, false, true, {}⟩ [] _ ⟨"a", [.member (some "a")]⟩
    (.object []) [] rfl rfl rfl rfl hstatus rfl rfl hnodes
  rw [hstdout] at hlines
  exact absurd (congrArg Prod.fst hlines) (by decide)

end Command

end PathQuery
