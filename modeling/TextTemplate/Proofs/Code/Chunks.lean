/-
Writing in chunks. A text that is written in several calls comes out as if it were written in one,
wherever it is cut.

The indent behind a line feed is written by two hands. Inside a text it stands behind the line feed
at once; behind the last byte nothing is written (`indented_concat`), and the indent is left to the
next write. `behindFeeds_eq` says that what is left out is just what the next write starts with
(`starts_write`), which depends on the text alone and on nothing the writer held before.
-/
import Mathlib.Data.List.Basic
import TextTemplate.Proofs.Code.Lines

namespace TextTemplate
namespace Writer

/-- Nothing is written behind the last byte of a text, be it a line feed or not. -/
theorem indented_concat (indent t : Text) (b : UInt8) :
    indented indent (t ++ [b]) = Text.behindFeeds indent t ++ [b] := by
  by_cases hb : b = 0x0A
  · subst hb
    have hall : Text.behindFeeds indent (t ++ [0x0A]) =
        Text.behindFeeds indent t ++ [0x0A] ++ indent := by simp [Text.behindFeeds]
    have hlength : (Text.behindFeeds indent t ++ [0x0A] ++ indent).length - indent.length =
        (Text.behindFeeds indent t ++ [0x0A]).length := by
      rw [List.length_append, Nat.add_sub_cancel]
    have hlast : endsWithLF (t ++ [0x0A]) = true := by simp [endsWithLF]
    unfold indented
    rw [if_pos hlast, ← Text.behindFeeds, hall, hlength, List.take_left]
  · have hlast : endsWithLF (t ++ [b]) = false := by simpa [endsWithLF] using hb
    rw [indented_eq hlast]
    simp [Text.behindFeeds, hb]

theorem exists_concat {s : Text} (hs : s ≠ []) : ∃ t b, s = t ++ [b] :=
  ⟨s.dropLast, s.getLast hs, (List.dropLast_append_getLast hs).symm⟩

/-- A text with the indent behind all its line feeds is the text as it is written, with the indent
of the next line where it ends one. -/
theorem behindFeeds_eq (indent s : Text) :
    Text.behindFeeds indent s = indented indent s ++ if endsWithLF s then indent else [] := by
  by_cases hs : s = []
  · subst hs
    rfl
  · obtain ⟨t, b, rfl⟩ := exists_concat hs
    rw [indented_concat]
    by_cases hb : b = 0x0A
    · simp [Text.behindFeeds, endsWithLF, hb]
    · simp [Text.behindFeeds, endsWithLF, hb]

theorem endsWithLF_append (s : Text) {t : Text} (ht : t ≠ []) :
    endsWithLF (s ++ t) = endsWithLF t := by
  rw [endsWithLF, endsWithLF, List.getLast?_append_of_ne_nil s ht]

theorem indented_ne_nil {s : Text} (hs : s ≠ []) (indent : Text) : indented indent s ≠ [] := by
  obtain ⟨t, b, rfl⟩ := exists_concat hs
  rw [indented_concat]
  simp

theorem endsWithLF_indented {s : Text} (hs : s ≠ []) (indent : Text) :
    endsWithLF (indented indent s) = endsWithLF s := by
  obtain ⟨t, b, rfl⟩ := exists_concat hs
  rw [indented_concat, endsWithLF_append _ (by simp), endsWithLF_append _ (by simp)]

/-- What a text adds to a writer: at the start of a line the indent comes first. -/
theorem write_eq (w : Writer) {s : Text} (hs : s ≠ []) :
    w.write s = { w with
      out := w.out ++ (if w.out.isEmpty || w.endsLine then w.indent else [])
        ++ indented w.indent s
      endsLine := endsWithLF s } := by
  have hne : s.isEmpty = false := by simpa using hs
  by_cases hline : (w.out.isEmpty || w.endsLine) = true
  · simp [write, beginLine, hne, hline]
  · simp [write, beginLine, hne, hline]

/-- Between two texts goes the indent that the first one leaves to the second. -/
theorem indented_append (indent s : Text) {t : Text} (ht : t ≠ []) :
    indented indent (s ++ t) =
      indented indent s ++ (if endsWithLF s then indent else []) ++ indented indent t := by
  have hwhole := behindFeeds_append indent s t
  rw [behindFeeds_eq indent (s ++ t), behindFeeds_eq indent s, behindFeeds_eq indent t,
    endsWithLF_append s ht, ← List.append_assoc] at hwhole
  exact List.append_cancel_right hwhole

/-- Behind a text that was written the next one starts a line exactly if the text ended one. -/
theorem starts_write (w : Writer) {s : Text} (hs : s ≠ []) :
    ((w.write s).out.isEmpty || (w.write s).endsLine) = endsWithLF s := by
  rw [write_eq w hs]
  simp [indented_ne_nil hs]

/-- **Two texts, one after the other**, are written as one. -/
theorem write_write (w : Writer) (s t : Text) : (w.write s).write t = w.write (s ++ t) := by
  by_cases hs : s = []
  · subst hs
    rfl
  by_cases ht : t = []
  · subst ht
    rw [List.append_nil]
    rfl
  have hst : s ++ t ≠ [] := List.append_ne_nil_of_left_ne_nil hs t
  rw [write_eq (w.write s) ht, starts_write w hs, write_eq w hs, write_eq w hst,
    indented_append w.indent s ht, endsWithLF_append s ht]
  simp only [List.append_assoc]

theorem foldl_write (w : Writer) (chunks : List Text) :
    chunks.foldl write w = w.write chunks.flatten := by
  induction chunks generalizing w with
  | nil => rfl
  | cons chunk chunks ih => rw [List.foldl_cons, ih, write_write, List.flatten_cons]

/-- **Writing does not depend on the chunks.** From any writer, at any indent, two texts written one
after the other leave the writer as the one text of both does; so do any two lists of chunks that
make the same text. -/
theorem write_chunks (w : Writer) :
    (∀ s t : Text, (w.write s).write t = w.write (s ++ t)) ∧
      ∀ cs ds : List Text, cs.flatten = ds.flatten → cs.foldl write w = ds.foldl write w := by
  refine ⟨write_write w, fun cs ds h => ?_⟩
  rw [foldl_write, foldl_write, h]

/-- A CRLF cut in two, and a line feed at the end of a chunk: at an indent with a line feed of its
own. -/
theorem write_chunks_crlf :
    let w := (ofLayout .standard).pushIndent (utf8 "\n>")
    [utf8 "a\r", utf8 "\nb\n", []].flatten = [utf8 "a", utf8 "\r\nb\n"].flatten ∧
      [utf8 "a\r", utf8 "\nb\n", []].foldl write w = [utf8 "a", utf8 "\r\nb\n"].foldl write w ∧
      ([utf8 "a", utf8 "\r\nb\n"].foldl write w).out = utf8 "\n>a\r\n\n>b\n" := by
  refine ⟨by decide, ?_, by decide +kernel⟩
  exact (write_chunks _).2 _ _ (by decide)

end Writer
end TextTemplate
