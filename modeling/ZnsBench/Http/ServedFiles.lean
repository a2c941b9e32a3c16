import ZnsBench.Core.LexicalPath
import ZnsBench.Http.SessionRuns

/-!
# The files that are served

A target is refused when two dots stand in it, wherever they stand.  What is
left to show is that the name that is opened has none either: `path_cat` takes
a slash away, `index.html` is put behind the target, and the name ends at its
first zero byte.  So no name leaves the directory that is served.  The names
are read as they are spelled; where symbolic links lead is left to the file
system.
-/

namespace ZnsBench.Http.HttpServer

open ZnsBench.Core.ByteString ZnsBench.Core.GuardedRun
  ZnsBench.Core.LexicalPath

variable {docRoot target name : Bytes}

/-- Where a name leads. -/
def leadsTo (name : Bytes) : List Bytes := resolve 47 46 name

/-- A name that begins with a slash. -/
def IsAbsolute (name : Bytes) : Prop := name.head? = some 47

/--
A name leads to the directory that is served or to a place below it.  An empty
`doc_root` stands for the root of the file system.
-/
def Below (docRoot name : Bytes) : Prop :=
  (IsAbsolute name ↔ docRoot = [] ∨ IsAbsolute docRoot) ∧
    ∃ more, leadsTo name = leadsTo docRoot ++ more

/-- The directory without the slash at its end. -/
def trimmed (docRoot : Bytes) : Bytes :=
  if docRoot.getLast? = some 47 then docRoot.dropLast else docRoot

@[simp]
theorem leadsTo_trimmed (docRoot : Bytes) :
    leadsTo (trimmed docRoot) = leadsTo docRoot := by
  rw [trimmed]
  split
  · rename_i ending
    have parts := List.dropLast_append_getLast? 47 ending
    calc
      leadsTo docRoot.dropLast = leadsTo (docRoot.dropLast ++ [47]) :=
        (resolve_append_separator _).symm
      _ = leadsTo docRoot := by rw [parts]
  · rfl

theorem head?_trimmed_append
    (nonempty : docRoot ≠ []) (way : Bytes) :
    (trimmed docRoot ++ 47 :: way).head? = docRoot.head? := by
  rw [trimmed]
  split
  · rename_i ending
    rw [← List.dropLast_append_getLast? 47 ending, List.dropLast_concat]
    cases docRoot.dropLast <;> rfl
  · rcases List.exists_cons_of_ne_nil nonempty with ⟨head, tail, rfl⟩
    rfl

/-- The way down from a directory is absolute when the directory is. -/
@[simp]
theorem isAbsolute_trimmed_append (docRoot way : Bytes) :
    IsAbsolute (trimmed docRoot ++ 47 :: way) ↔
      docRoot = [] ∨ IsAbsolute docRoot := by
  by_cases empty : docRoot = []
  · rw [empty]
    exact ⟨fun _ => Or.inl rfl, fun _ => rfl⟩
  · rw [IsAbsolute, head?_trimmed_append empty]
    exact (or_iff_right empty).symm

theorem pathCat_eq (docRoot path : Bytes) :
    pathCat docRoot path = trimmed docRoot ++ path := by
  rw [pathCat]
  split
  · rename_i empty
    rw [empty]
    rfl
  · rfl

/-- The path of a legal target: the directory, a slash and a way down. -/
theorem exists_filePath
    (docRoot : Bytes) (legal : ¬ IsIllegal target) :
    ∃ way,
      ¬ [46, 46] <:+: way ∧
        filePath docRoot target = trimmed docRoot ++ 47 :: way := by
  simp only [IsIllegal, not_or, not_not] at legal
  rcases legal with ⟨-, begins, down⟩
  rcases List.head?_eq_some_iff.mp begins with ⟨rest, rfl⟩
  have downRest : ¬ [46, 46] <:+: rest :=
    fun found => down (List.infix_cons found)
  rw [filePath, pathCat_eq]
  split
  · refine ⟨rest ++ ascii "index.html", ?_, by simp⟩
    exact not_infix_append downRest (by decide) (by decide)
  · exact ⟨rest, downRest, by simp⟩

theorem cString_append (noNul : 0 ∉ docRoot) (rest : Bytes) :
    cString (docRoot ++ rest) = docRoot ++ cString rest := by
  refine List.takeWhile_append_of_pos ?_
  intro byte member
  rw [bne_iff_ne]
  intro isNul
  exact noNul (isNul ▸ member)

theorem not_mem_trimmed (noNul : 0 ∉ docRoot) : 0 ∉ trimmed docRoot := by
  rw [trimmed]
  split
  · exact fun member => noNul (List.dropLast_subset docRoot member)
  · exact noNul

/-- The name that is opened for a legal target. -/
theorem below_cString_filePath
    (noNul : 0 ∉ docRoot) (legal : ¬ IsIllegal target) :
    Below docRoot (cString (filePath docRoot target)) := by
  rcases exists_filePath docRoot legal with ⟨way, down, path⟩
  have name :
      cString (filePath docRoot target) =
        trimmed docRoot ++ 47 :: cString way := by
    rw [path, cString_append (not_mem_trimmed noNul), cString,
      upTo_cons_of_ne (by decide)]
    rfl
  have downName : ¬ [46, 46] <:+: cString way :=
    fun found => down (found.trans (List.takeWhile_prefix _).isInfix)
  rw [Below, name, ← leadsTo_trimmed docRoot]
  exact ⟨isAbsolute_trimmed_append docRoot _,
    exists_resolve_append downName _⟩

theorem below_of_mem_handleRequest
    (noNul : 0 ∉ docRoot) {files : Bytes → Opened} {req : Request}
    (member : name ∈ (handleRequest files docRoot req).2) :
    Below docRoot name := by
  rw [handleRequest] at member
  split at member
  · exact absurd member List.not_mem_nil
  · split at member
    · exact absurd member List.not_mem_nil
    · rename_i legal
      have opened : name = cString (filePath docRoot req.target) := by
        dsimp only at member
        split at member <;> exact List.mem_singleton.mp member
      rw [opened]
      exact below_cString_filePath noNul legal

theorem below_turn
    (noNul : 0 ∉ docRoot) {session next : Session}
    (holds : ∀ name ∈ session.opened, Below docRoot name)
    (turn : Turn docRoot session next) :
    ∀ name ∈ next.opened, Below docRoot name := by
  cases turn with
  | answers _ files req =>
      intro name member
      rcases List.mem_append.mp member with earlier | new
      · exact holds name earlier
      · exact below_of_mem_handleRequest noNul new
  | _ => exact holds

/--
In every run of the server, every name that is opened for a request lies, as
it is spelled, in the directory that is served or below it, whatever the
targets of the requests are.
-/
theorem opened_files_lie_below_root
    (docRoot : Bytes) (noNul : 0 ∉ docRoot)
    (server : Server) (reached : Reachable docRoot server)
    (session : Session) (member : session ∈ server.sessions)
    (name : Bytes) (opened : name ∈ session.opened) :
    Below docRoot name :=
  reached.each (fun session => ∀ name ∈ session.opened, Below docRoot name)
    (fun _ none => absurd none List.not_mem_nil)
    (fun _ _ holds turn => below_turn noNul holds turn)
    session member name opened

/-- A directory is asked for and its index is opened. -/
theorem opened_files_lie_below_root_index :
    0 ∉ ascii "." ∧
      ∃ server session,
        Reachable (ascii ".") server ∧ server.sessions[0]? = some session ∧
          session.opened = [ascii "./zones/index.html"] ∧
          Below (ascii ".") (ascii "./zones/index.html") := by
  have replayed :
      ∃ server,
        Reachable (ascii ".") server ∧
          ∃ session ∈ server.sessions[0]?,
            session.opened = [ascii "./zones/index.html"] :=
    Run.exists_of_replay _
      [.accepted, .completed 0 .dispatched,
        .completed 0 (.read (fun _ => .opened 5)
          (.request ⟨.get, ascii "/zones/../nvme0", 11, true⟩)),
        .completed 0 (.wrote false),
        .completed 0 (.read (fun _ => .opened 5)
          (.request ⟨.get, ascii "/zones/", 11, true⟩))]
      (by decide +kernel)
  rcases replayed with ⟨server, reached, session, found, opened⟩
  refine ⟨by decide, server, session, reached, found, opened, ?_⟩
  refine
    opened_files_lie_below_root (ascii ".") (by decide) server reached
      session (List.mem_of_getElem? found) _ ?_
  rw [opened]
  exact List.mem_singleton_self _

end ZnsBench.Http.HttpServer
