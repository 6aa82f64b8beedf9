/-
The line that is named for a row that is too long.

The failure names the number of header cells, the number of cells of the first row that has
more, and a line.  That line is the one in which reading the row began: it is one more than
the number of line feeds read by then.  The row itself stands in that line exactly if
nothing is passed over in front of it and no carriage return stands alone before it.
-/
import DatasetSync.Proofs.Csv.Place
import DatasetSync.Proofs.Dataset.Accepted

namespace DatasetSync.Dataset

/-- **The line named for a row that is too long is its own exactly if** the row follows the line
feed that ends the record before it, and every carriage return before it is followed by a line
feed.  The counts are those of the header and of the first row that is too long. -/
theorem ragged_line_iff {payload : List UInt8} {doing : List Activity}
    {line expected found : Nat}
    (h : parse payload = .error ⟨doing, .raggedRow line expected found⟩) :
    ∃ header earlier record later before gap rest,
      Csv.records (Csv.stripMark payload) = header :: (earlier ++ record :: later) ∧
      expected = header.fields.length ∧ found = record.fields.length ∧ expected < found ∧
      (∀ other ∈ earlier, other.fields.length ≤ expected) ∧
      payload = before ++ gap ++ rest ∧
      Csv.StandsAt (Csv.stripMark before) gap rest (header :: earlier) record ∧
      line = 1 + before.count Csv.lineFeed ∧
      (line = Csv.lineBehind (before ++ gap) ↔ gap = [] ∧ Csv.ReturnsPaired before) := by
  cases hrecords : Csv.records (Csv.stripMark payload) with
  | nil =>
      rw [parse, hrecords] at h
      cases h
  | cons header records =>
      cases (parse_eq_error_iff hrecords).mp h with
      | @record cells earlier later record _ hcells hsplit hearlier hrefused =>
          subst hsplit
          cases hrefused with
          | tooLong htexts hlong =>
              obtain ⟨text, gap, rest, htext, hplace⟩ := Csv.exists_place hrecords
              rw [List.append_assoc] at htext
              obtain ⟨before, hbefore, rfl, hcount⟩ := Csv.exists_of_stripMark htext
              have hline : record.start.line = 1 + before.count Csv.lineFeed := by
                rw [hplace.start_eq, Csv.Position.line_behind, hcount]
              refine ⟨header, earlier, record, later, before, gap, rest, rfl, rfl, rfl, hlong,
                fun other hother => (hearlier other hother).short, ?_, hplace, hline, ?_⟩
              · rw [hbefore, List.append_assoc]
              · rw [hline]
                exact Csv.lineBehind_eq_iff hplace.gap_ends

/-- A row that is too long, behind one that goes over two lines. -/
def foldedLines : List UInt8 :=
  "a,b\n\"x\r\ny\",2\n1,2,3\n".toUTF8.toList

theorem ragged_line_iff_of_foldedLines :
    parse foldedLines = .error ⟨[], .raggedRow 4 2 3⟩ ∧
      ∃ header earlier record later before gap rest,
        Csv.records (Csv.stripMark foldedLines) = header :: (earlier ++ record :: later) ∧
        2 = header.fields.length ∧ 3 = record.fields.length ∧ 2 < 3 ∧
        (∀ other ∈ earlier, other.fields.length ≤ 2) ∧
        foldedLines = before ++ gap ++ rest ∧
        Csv.StandsAt (Csv.stripMark before) gap rest (header :: earlier) record ∧
        4 = 1 + before.count Csv.lineFeed ∧
        (4 = Csv.lineBehind (before ++ gap) ↔ gap = [] ∧ Csv.ReturnsPaired before) := by
  have hragged : parse foldedLines = .error ⟨[], .raggedRow 4 2 3⟩ := by
    decide +kernel
  exact ⟨hragged, ragged_line_iff hragged⟩

/-- Where lines end in a carriage return and a line feed, the line before is named: the row stands in
the second line. -/
theorem ragged_line_before :
    parse "a,b\r\n1,2,3\r\n".toUTF8.toList = .error ⟨[], .raggedRow 1 2 3⟩ ∧
      ∃ header record before gap rest,
        Csv.records "a,b\r\n1,2,3\r\n".toUTF8.toList = [header, record] ∧
        header.fields.length = 2 ∧ record.fields.length = 3 ∧
        "a,b\r\n1,2,3\r\n".toUTF8.toList = before ++ gap ++ rest ∧
        Csv.StandsAt before gap rest [header] record ∧ Csv.lineBehind (before ++ gap) = 2 := by
  have hrecords : Csv.records "a,b\r\n1,2,3\r\n".toUTF8.toList =
      [⟨⟨1, 0⟩, [[0x61], [0x62]]⟩, ⟨⟨1, 4⟩, [[0x31], [0x32], [0x33]]⟩] := by
    decide +kernel
  refine ⟨by decide +kernel, _, _, "a,b\r".toUTF8.toList, "\n".toUTF8.toList,
    "1,2,3\r\n".toUTF8.toList, hrecords, rfl, rfl, by decide +kernel, ?_, by decide +kernel⟩
  exact {
    before_eq := by decide +kernel
    start_eq := by decide +kernel
    gap_ends := by decide +kernel
    begins := ⟨0x31, ",2,3\r\n".toUTF8.toList, by decide +kernel, by decide +kernel⟩
    fields_eq := by decide +kernel }

end DatasetSync.Dataset
