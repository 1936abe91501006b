import BridgeSigner.Foundation.Path
import BridgeSigner.Foundation.Text

/-
  The names of temporary files: `os.CreateTemp` puts a random
  number of 32 bits where its pattern has a star, and joins
  the name to the directory.

  A pattern is proper when no name made from it has a slash
  or is one of the names that stand for a directory.

  Key definitions include:
    * `TempPattern`
    * `TempPattern.name`, `TempPattern.path`

  Main results:
    * `TempPattern.resolve_path`
    * `TempPattern.resolve_path_eq_iff`
-/

------------------------------------------------------------
-- Patterns
------------------------------------------------------------

namespace BridgeSigner

/- What stands before and after the star. -/
structure TempPattern where
  front : Bytes
  back : Bytes
  front_noSlash : Path.slash ∉ front
  back_noSlash : Path.slash ∉ back
  long : 2 < front.length

namespace TempPattern

variable (t : TempPattern)

def name
    (n : Nat) : Bytes :=
  t.front ++ formatUint n ++ t.back

/- `os.CreateTemp` joins the directory and the name. -/
def path
    (dir : Bytes)
    (n : Nat) : Bytes :=
  if dir.getLast? = some Path.slash then
    dir ++ t.name n
  else
    dir ++ Path.slash :: t.name n

theorem name_length
    (n : Nat) :
    2 < (t.name n).length := by
  have hLong := t.long
  rw [name, List.length_append, List.length_append]
  omega

theorem name_proper
    (n : Nat) :
    Path.Proper (t.name n) := by
  have hLong := t.name_length n
  constructor
  · intro hNil
    rw [hNil] at hLong
    cases hLong
  · intro hDot
    rw [hDot] at hLong
    exact absurd hLong (by decide)
  · intro hMem
    rw [name, List.mem_append, List.mem_append] at hMem
    rcases hMem with (hFront | hDigit) | hBack
    · exact t.front_noSlash hFront
    · exact ne_of_isDigit (isDigit_of_mem_formatUint hDigit)
        rfl rfl
    · exact t.back_noSlash hBack

theorem name_ne_dotdot
    (n : Nat) :
    t.name n ≠ Path.dotdot := by
  intro hDots
  have hLong := t.name_length n
  rw [hDots] at hLong
  exact absurd hLong (by decide)

end TempPattern

end BridgeSigner

------------------------------------------------------------
-- Where The Names Lead
------------------------------------------------------------

namespace BridgeSigner

namespace TempPattern

variable (t : TempPattern)
variable (cwd : List Bytes)

/- The name drawn is in the directory. -/
theorem resolve_path
    {dir : Bytes}
    (hDir : dir ≠ [])
    (n : Nat) :
    Path.resolve cwd (t.path dir n) =
      t.name n :: Path.resolve cwd dir := by
  have hProper := t.name_proper n
  have hSlash := hProper.noSlash
  rw [← Path.enter_proper hProper (t.name_ne_dotdot n)]
  unfold path
  split
  · rename_i hLast
    rcases List.getLast?_eq_some_iff.mp hLast with
      ⟨dir', rfl⟩
    rw [List.append_assoc]
    exact Path.resolve_below cwd dir' hSlash
  · rw [Path.resolve_below cwd _ hSlash,
      Path.resolve_slash cwd hDir]

/-
  Where no directory on the way is a symbolic link, the name
  drawn beside a path is the path itself only if it is the
  last element of the path.
-/
theorem resolve_path_eq_iff
    (path : Bytes)
    (n : Nat) :
    Path.resolve cwd (t.path (Path.dir path) n) =
        Path.resolve cwd path ↔
      Path.afterSlash path = t.name n := by
  have hProper := t.name_proper n
  have hDots := t.name_ne_dotdot n
  have hDir : Path.dir path ≠ [] := Path.clean_ne_nil _
  rw [t.resolve_path cwd hDir, Path.dir, Path.resolve_clean,
    Path.resolve_afterSlash cwd path, eq_comm,
    Path.enter_eq_cons_iff hProper hDots]

end TempPattern

end BridgeSigner
