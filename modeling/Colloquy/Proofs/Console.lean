/-
What a program writes. Between two moments of a console lines are written,
and nothing else happens, but that the log is set up once; so a program is
told by what it comes to, by its results and by its complaints (`Ends`), and
two programs one after another write what the first writes and then what the
second writes (`Ends.bind`). Entries of the log stand among the results but
are none, and they are left aside here: a note writes nothing
(`ends_note`).
-/
import Colloquy.Proofs.Loading

namespace Colloquy

namespace Console

-- ============================================================== moments

/-- Between two moments some lines were written, and nothing else happened,
but that the log may have been set up: `results` and `complaints` are those
among the lines, in order. -/
def Wrote (c c' : Console) (results complaints : List String) : Prop :=
  ∃ (lines : List Line) (log : Log.Setup),
    c' = { c with log, written := c.written ++ lines.toArray }
      ∧ lines.filterMap Line.result? = results
      ∧ lines.filterMap Line.complaint? = complaints

section

variable {c c' c'' : Console} {results complaints : List String}

theorem Wrote.refl (c : Console) : c.Wrote c [] [] :=
  ⟨[], c.log, by rw [Array.append_empty], rfl, rfl⟩

/-- What is written from `c` to `c''` is what is written from `c` to `c'` and
then from `c'` to `c''`. -/
theorem Wrote.trans {results' complaints' : List String}
    (h : c.Wrote c' results complaints)
    (h' : c'.Wrote c'' results' complaints') :
    c.Wrote c'' (results ++ results') (complaints ++ complaints') := by
  obtain ⟨lines, log, rfl, rfl, rfl⟩ := h
  obtain ⟨lines', log', rfl, rfl, rfl⟩ := h'
  refine ⟨lines ++ lines', log', ?_, List.filterMap_append,
    List.filterMap_append⟩
  rw [← List.append_toArray, ← Array.append_assoc]

/-- Writing changes no file. -/
theorem Wrote.disk (h : c.Wrote c' results complaints) : c'.disk = c.disk := by
  obtain ⟨lines, log, rfl, -, -⟩ := h
  rfl

end

end Console

-- ============================================================= programs

namespace Program

/-- Run on `c`, a program comes to `outcome` and has then written `results` and
`complaints`. -/
def Ends {α : Type} (m : Program α) (c : Console)
    (outcome : Except Console.Fault α) (results complaints : List String) :
    Prop :=
  ∃ c', m c = (outcome, c') ∧ c.Wrote c' results complaints

variable {α β : Type} {c : Console} {results complaints : List String}

theorem ends_pure (a : α) (c : Console) :
    (pure a : Program α).Ends c (.ok a) [] [] :=
  ⟨c, rfl, .refl c⟩

/-- Sequencing concatenates: `m >>= k` writes what `m` writes and then what `k`
writes. -/
theorem Ends.bind {m : Program α} {k : α → Program β} {a : α}
    {outcome : Except Console.Fault β} {results' complaints' : List String}
    (h : m.Ends c (.ok a) results complaints)
    (hk : ∀ c', c.Wrote c' results complaints →
      (k a).Ends c' outcome results' complaints') :
    (m >>= k).Ends c outcome (results ++ results')
      (complaints ++ complaints') := by
  obtain ⟨c', hm, hwrote⟩ := h
  obtain ⟨c'', hka, hwrote'⟩ := hk c' hwrote
  exact ⟨c'', (CommandLine.bind_of_ok hm).trans hka, hwrote.trans hwrote'⟩

/-- If `m` writes nothing, `m >>= k` writes what `k` writes. -/
theorem Ends.bind_silent {m : Program α} {k : α → Program β} {a : α}
    {outcome : Except Console.Fault β} (h : m.Ends c (.ok a) [] [])
    (hk : ∀ c', c.Wrote c' [] [] → (k a).Ends c' outcome results complaints) :
    (m >>= k).Ends c outcome results complaints :=
  h.bind hk

/-- If `m` fails, `m >>= k` fails as `m` does, and `k` does not run. -/
theorem Ends.bind_error {m : Program α} {fault : Console.Fault}
    (h : m.Ends c (.error fault) results complaints) (k : α → Program β) :
    (m >>= k).Ends c (.error fault) results complaints := by
  obtain ⟨c', hm, hwrote⟩ := h
  refine ⟨c', ?_, hwrote⟩
  show ExceptT.bindCont k (m c).1 (m c).2 = _
  rw [hm]
  rfl

theorem ends_get_bind {k : Console → Program β}
    {outcome : Except Console.Fault β}
    (h : (k c).Ends c outcome results complaints) :
    (get >>= k).Ends c outcome results complaints := h

/-- A program comes to one outcome only. -/
theorem Ends.outcome {m : Program α} {outcome : Except Console.Fault α}
    (h : m.Ends c outcome results complaints) : (m c).1 = outcome := by
  obtain ⟨c', hm, -⟩ := h
  rw [hm]

theorem ends_write (line : Console.Line) (c : Console) :
    (write line).Ends c (.ok ()) line.result?.toList
      line.complaint?.toList := by
  refine ⟨_, rfl, [line], c.log, ?_, ?_, ?_⟩
  · rw [← Array.push_eq_append]
  · cases line <;> rfl
  · cases line <;> rfl

theorem ends_print (line : String) (c : Console) :
    (print line).Ends c (.ok ()) [line] [] := ends_write (.result line) c

/-- Over a list, `forM` writes the results and the complaints of each item, in
order. -/
theorem ends_forM {f : α → Program Unit} {results complaints : α → List String}
    (hf : ∀ a c, (f a).Ends c (.ok ()) (results a) (complaints a))
    (as : List α) (c : Console) :
    (as.forM f).Ends c (.ok ()) (as.flatMap results)
      (as.flatMap complaints) := by
  induction as generalizing c with
  | nil => exact ends_pure () c
  | cons a rest ih =>
      rw [List.flatMap_cons, List.flatMap_cons]
      exact (hf a c).bind fun c' _ => ih c'

theorem flatMap_nothing (as : List α) :
    as.flatMap (fun _ => ([] : List String)) = [] :=
  List.flatMap_eq_nil_iff.2 fun _ _ => rfl

/-- If `f` writes nothing for any item, `forM f` writes nothing. -/
theorem ends_forM_silent {f : α → Program Unit}
    (hf : ∀ a c, (f a).Ends c (.ok ()) [] []) (as : List α) (c : Console) :
    (as.forM f).Ends c (.ok ()) [] [] := by
  have hsilent := ends_forM hf as c
  rwa [flatMap_nothing] at hsilent

/-- What `note` writes is no result and no complaint. -/
theorem ends_note (entry : Log.Entry) (c : Console) :
    (note entry).Ends c (.ok ()) [] [] :=
  ends_get_bind
    (ends_forM_silent (fun line => ends_write (.entry line))
      (c.log.line? c.now entry).toList c)

theorem ends_notes (entries : List Log.Entry) (c : Console) :
    (entries.forM note).Ends c (.ok ()) [] [] :=
  ends_forM_silent ends_note entries c

-- ============================================================= settings

/-- A program writes no result on `c`, whatever its outcome. -/
def WritesNoResult (m : Program α) (c : Console) : Prop :=
  ∃ outcome complaints, m.Ends c outcome [] complaints

theorem Ends.writesNoResult {m : Program α}
    {outcome : Except Console.Fault α} (h : m.Ends c outcome [] complaints) :
    m.WritesNoResult c := ⟨_, _, h⟩

theorem Ends.bind_writesNoResult {m : Program α} {k : α → Program β} {a : α}
    (h : m.Ends c (.ok a) [] complaints)
    (hk : ∀ c', (k a).WritesNoResult c') : (m >>= k).WritesNoResult c := by
  obtain ⟨c', hm, hwrote⟩ := h
  obtain ⟨outcome, complaints', c'', hka, hwrote'⟩ := hk c'
  exact ⟨outcome, complaints ++ complaints', c'',
    (CommandLine.bind_of_ok hm).trans hka, hwrote.trans hwrote'⟩

theorem WritesNoResult.bind {m : Program α} {k : α → Program β}
    (h : m.WritesNoResult c) (hk : ∀ a c', (k a).WritesNoResult c') :
    (m >>= k).WritesNoResult c := by
  obtain ⟨outcome, complaints, hends⟩ := h
  cases outcome with
  | error fault => exact (hends.bind_error k).writesNoResult
  | ok a => exact hends.bind_writesNoResult (hk a)

end Program
end Colloquy
