/-
The layouts of a value.

Between the parts of a value any blanks may stand, and the texts that differ in them only
are its layouts.  The compact text and the one laid out over lines are two of them, for
every value.
-/
import DatasetSync.Json.Reader
import DatasetSync.Json.Value

namespace DatasetSync.Json

/-- Blanks between two parts of a value. -/
def IsGap (cs : List Char) : Prop :=
  ∀ c ∈ cs, isSpace c = true

mutual

/-- The text is a layout of the value. -/
inductive Layout : Value → List Char → Prop
  | string (s : String) : Layout (.string s) (writeString s).toList
  | emptyArray {gap : List Char} (hgap : IsGap gap) : Layout (.array []) ('[' :: (gap ++ [']']))
  | array {items : List Value} {text : List Char} (h : ItemsLayout items text) :
      Layout (.array items) ('[' :: (text ++ [']']))
  | emptyObject {gap : List Char} (hgap : IsGap gap) :
      Layout (.object []) ('\x7b' :: (gap ++ ['\x7d']))
  | object {fields : List (String × Value)} {text : List Char} (h : FieldsLayout fields text) :
      Layout (.object fields) ('\x7b' :: (text ++ ['\x7d']))

/-- The text is a layout of some values with commas between them. -/
inductive ItemsLayout : List Value → List Char → Prop
  | last {item : Value} {before text after : List Char} (hbefore : IsGap before)
      (h : Layout item text) (hafter : IsGap after) :
      ItemsLayout [item] (before ++ (text ++ after))
  | more {item : Value} {items : List Value} {before text after rest : List Char}
      (hbefore : IsGap before) (h : Layout item text) (hafter : IsGap after)
      (hrest : ItemsLayout items rest) :
      ItemsLayout (item :: items) (before ++ (text ++ (after ++ ',' :: rest)))

/-- The text is a layout of some fields with commas between them. -/
inductive FieldsLayout : List (String × Value) → List Char → Prop
  | last {key : String} {value : Value} {before behind gap text after : List Char}
      (hbefore : IsGap before) (hbehind : IsGap behind) (hgap : IsGap gap)
      (h : Layout value text) (hafter : IsGap after) :
      FieldsLayout [(key, value)]
        (before ++ ((writeString key).toList ++ (behind ++ ':' :: (gap ++ (text ++ after)))))
  | more {key : String} {value : Value} {fields : List (String × Value)}
      {before behind gap text after rest : List Char}
      (hbefore : IsGap before) (hbehind : IsGap behind) (hgap : IsGap gap)
      (h : Layout value text) (hafter : IsGap after) (hrest : FieldsLayout fields rest) :
      FieldsLayout ((key, value) :: fields)
        (before ++ ((writeString key).toList ++
          (behind ++ ':' :: (gap ++ (text ++ (after ++ ',' :: rest))))))

end

theorem isGap_nil : IsGap [] := by
  intro c hc
  contradiction

theorem isGap_blank : IsGap [' '] := by
  intro c hc
  rw [List.mem_singleton.mp hc]
  decide

theorem IsGap.append {before after : List Char} (hbefore : IsGap before) (hafter : IsGap after) :
    IsGap (before ++ after) := by
  intro c hc
  exact (List.mem_append.mp hc).elim (hbefore c) (hafter c)

theorem isGap_newline (depth : Nat) : IsGap (newline depth).toList := by
  intro c hc
  simp only [newline, String.toList_ofList, List.mem_cons, List.mem_replicate] at hc
  rcases hc with rfl | ⟨-, rfl⟩ <;> decide

/-! ### The length of a layout

A comma stands between any two items and a colon in each field, so a layout is long enough for a
reader that counts its steps by the length of the text.
-/

theorem ItemsLayout.length_le {items : List Value} {text : List Char}
    (h : ItemsLayout items text) : items.length ≤ text.length + 1 := by
  induction items generalizing text with
  | nil => exact Nat.zero_le _
  | cons item items ih =>
      cases h with
      | last => simp
      | more _ _ _ hrest =>
          have hlength := ih hrest
          simp only [List.length_cons, List.length_append]
          omega

theorem FieldsLayout.length_le {fields : List (String × Value)} {text : List Char}
    (h : FieldsLayout fields text) : fields.length ≤ text.length := by
  induction fields generalizing text with
  | nil => exact Nat.zero_le _
  | cons field fields ih =>
      cases h with
      | last =>
          simp only [List.length_cons, List.length_append, List.length_nil]
          omega
      | more _ _ _ _ _ hrest =>
          have hlength := ih hrest
          simp only [List.length_cons, List.length_append]
          omega

/-! ### The compact text

A list with something in it is taken apart into its first item and the others, because only such a
list has a layout.
-/

mutual

/-- **The compact text** of a value is a layout of it. -/
theorem layout_compact : ∀ v : Value, Layout v (compact v).toList
  | .string s => .string s
  | .array [] => .emptyArray isGap_nil
  | .array (item :: rest) => by
      simpa [compact] using Layout.array (itemsLayout_compact item rest)
  | .object [] => .emptyObject isGap_nil
  | .object ((key, value) :: rest) => by
      simpa [compact] using Layout.object (fieldsLayout_compact key value rest)
termination_by v => sizeOf v

theorem itemsLayout_compact (item : Value) :
    ∀ rest : List Value, ItemsLayout (item :: rest) (compactItems (item :: rest)).toList
  | [] => by
      simpa [compactItems] using ItemsLayout.last isGap_nil (layout_compact item) isGap_nil
  | next :: rest => by
      simpa [compactItems] using ItemsLayout.more isGap_nil (layout_compact item) isGap_nil
        (itemsLayout_compact next rest)
termination_by rest => sizeOf item + sizeOf rest + 1

theorem fieldsLayout_compact (key : String) (value : Value) :
    ∀ rest : List (String × Value),
      FieldsLayout ((key, value) :: rest) (compactFields ((key, value) :: rest)).toList
  | [] => by
      simpa [compactFields] using FieldsLayout.last isGap_nil isGap_nil isGap_nil
        (layout_compact value) isGap_nil
  | (next, other) :: rest => by
      simpa [compactFields] using FieldsLayout.more isGap_nil isGap_nil isGap_nil
        (layout_compact value) isGap_nil (fieldsLayout_compact next other rest)
termination_by rest => sizeOf value + sizeOf rest + 1

end

/-! ### The text over lines -/

mutual

/-- **The text over lines** of a value is a layout of it, at every level of nesting. -/
theorem layout_pretty (depth : Nat) : ∀ v : Value, Layout v (pretty depth v).toList
  | .string s => .string s
  | .array [] => by
      simpa [pretty] using Layout.emptyArray isGap_nil
  | .array (item :: rest) => by
      simpa [pretty] using Layout.array
        (itemsLayout_pretty (depth + 1) (isGap_newline depth) item rest)
  | .object [] => by
      simpa [pretty] using Layout.emptyObject isGap_nil
  | .object ((key, value) :: rest) => by
      simpa [pretty] using Layout.object
        (fieldsLayout_pretty (depth + 1) (isGap_newline depth) key value rest)
termination_by v => sizeOf v

theorem itemsLayout_pretty (depth : Nat) {gap : List Char} (hgap : IsGap gap) (item : Value) :
    ∀ rest : List Value, ItemsLayout (item :: rest)
      ((newline depth).toList ++
        ((pretty depth item).toList ++ ((prettyItems depth rest).toList ++ gap)))
  | [] => by
      simpa [prettyItems] using
        ItemsLayout.last (isGap_newline depth) (layout_pretty depth item) hgap
  | next :: rest => by
      simpa [prettyItems] using ItemsLayout.more (isGap_newline depth) (layout_pretty depth item)
        isGap_nil (itemsLayout_pretty depth hgap next rest)
termination_by rest => sizeOf item + sizeOf rest + 1

theorem fieldsLayout_pretty (depth : Nat) {gap : List Char} (hgap : IsGap gap) (key : String)
    (value : Value) :
    ∀ rest : List (String × Value), FieldsLayout ((key, value) :: rest)
      ((newline depth).toList ++ ((writeString key).toList ++ (':' :: ' ' ::
        ((pretty depth value).toList ++ ((prettyFields depth rest).toList ++ gap)))))
  | [] => by
      simpa [prettyFields] using FieldsLayout.last (isGap_newline depth) isGap_nil isGap_blank
        (layout_pretty depth value) hgap
  | (next, other) :: rest => by
      simpa [prettyFields] using FieldsLayout.more (isGap_newline depth) isGap_nil isGap_blank
        (layout_pretty depth value) isGap_nil (fieldsLayout_pretty depth hgap next other rest)
termination_by rest => sizeOf value + sizeOf rest + 1

end

end DatasetSync.Json
