import StagedSynthesis.CommandLine
import StagedSynthesis.Proofs.Session.Stream

/-!
# What a written script leaves behind

A script is written to a temporary file and moved to its path. Moving takes the temporary file away
and puts a file at the place that the path names, and neither of the two was a directory, so the
names that led to that place lead there still (`Files.follow_append`). `Files.find_of_move`
concludes that the path leads to the moved file, and `gains_of_write_script` says so of the script:
after success its path reads its text, and everything else is as it was. `TakesFile.write_script`
gives paths for which writing succeeds.
-/

namespace StagedSynthesis

namespace Files

/-! ## Places -/

/-- Taking a place out of a list does not change what the list says of another place. -/
theorem lookup_filter_of_ne {place other : Place} (hne : other ≠ place)
    (entries : List (Place × FileEntry)) :
    (entries.filter (·.1 ≠ place)).lookup other = entries.lookup other := by
  induction entries with
  | nil => rfl
  | cons first rest ih =>
      obtain ⟨key, entry⟩ := first
      by_cases hkey : key = place
      · subst hkey
        have hother : (other == key) = false := beq_eq_false_iff_ne.mpr hne
        rw [List.filter_cons_of_neg (by simp), ih, List.lookup_cons, hother]
      · rw [List.filter_cons_of_pos (by simpa using hkey), List.lookup_cons, List.lookup_cons, ih]

/-- Taking a place out of a list leaves nothing at it. -/
theorem lookup_filter_self (place : Place) (entries : List (Place × FileEntry)) :
    (entries.filter (·.1 ≠ place)).lookup place = none := by
  rw [List.lookup_eq_none_iff]
  intro entry hentry
  have hne : entry.1 ≠ place := by simpa using (List.mem_filter.mp hentry).2
  simpa using hne.symm

/-- What is put at a place stands there. -/
theorem at_put_self (files : Files) {place : Place} (hplace : place ≠ []) (entry : FileEntry) :
    (files.put place entry).at? place = some entry := by
  have hroot : place.isEmpty = false := List.isEmpty_eq_false_iff.mpr hplace
  rw [at?, put, hroot, List.lookup_append, lookup_filter_self, List.lookup_cons, beq_self_eq_true]
  rfl

/-- What is put at a place changes no other place. -/
theorem at_put_of_ne (files : Files) {place other : Place} (hne : other ≠ place)
    (entry : FileEntry) : (files.put place entry).at? other = files.at? other := by
  have hother : (other == place) = false := beq_eq_false_iff_ne.mpr hne
  simp only [at?, put, List.lookup_append, lookup_filter_of_ne hne, List.lookup_cons, hother,
    List.lookup_nil, Option.or_none]

/-- Taking away what stands at a place changes no other place. -/
theorem at_remove_of_ne (files : Files) {place other : Place} (hne : other ≠ place) :
    (files.remove place).at? other = files.at? other := by
  simp only [at?, remove, lookup_filter_of_ne hne]

/-! ## Following names -/

/-- A name that a file can have. -/
structure IsFileName (name : String) : Prop where
  named : name ≠ ""
  notHere : name ≠ "."
  notAbove : name ≠ ".."
  short : name.utf8ByteSize ≤ 255

/-- Names lead on to a directory only from a directory. -/
theorem directory_of_follow {files : Files} {place reached : Place} {entry : FileEntry}
    {names : List String} (h : files.follow place entry names = .ok (reached, .directory)) :
    entry = .directory := by
  cases names with
  | nil =>
      rw [follow] at h
      exact congrArg Prod.snd (Except.ok.inj h)
  | cons name rest =>
      cases entry with
      | directory => rfl
      | file | program => cases h

/-- A tree has every directory that another has. -/
def KeepsDirectories (files moved : Files) : Prop :=
  ∀ place, files.at? place = some .directory → moved.at? place = some .directory

/-- Names that lead to a directory lead to it in every tree that keeps the directories, and names
behind them are followed from there. -/
theorem follow_append {files moved : Files} (hkeeps : files.KeepsDirectories moved)
    {place reached : Place} {first : List String}
    (h : files.follow place .directory first = .ok (reached, .directory)) (second : List String) :
    moved.follow place .directory (first ++ second) = moved.follow reached .directory second := by
  induction first generalizing place with
  | nil =>
      rw [follow] at h
      cases h
      rfl
  | cons name rest ih =>
      rw [List.cons_append, follow]
      rw [follow] at h
      by_cases hhere : name = "" ∨ name = "."
      · rw [if_pos hhere] at h ⊢
        exact ih h
      rw [if_neg hhere] at h ⊢
      by_cases habove : name = ".."
      · rw [if_pos habove] at h ⊢
        exact ih h
      rw [if_neg habove] at h ⊢
      by_cases hlong : 255 < name.utf8ByteSize
      · rw [if_pos hlong] at h
        cases h
      rw [if_neg hlong] at h ⊢
      cases hfound : files.at? (place ++ [name]) with
      | none =>
          rw [hfound] at h
          cases h
      | some entry =>
          -- Only a directory leads on, and the other tree has it too.
          rw [hfound] at h
          obtain rfl := directory_of_follow h
          rw [hkeeps _ hfound]
          exact ih h

/-- A name that a file can have leads to what stands under it. -/
theorem follow_name {files : Files} {place : Place} {name : String} {entry : FileEntry}
    (hname : IsFileName name) (hfound : files.at? (place ++ [name]) = some entry) :
    files.follow place .directory [name] = .ok (place ++ [name], entry) := by
  have hhere : ¬ (name = "" ∨ name = ".") := by simp [hname.named, hname.notHere]
  rw [follow, if_neg hhere, if_neg hname.notAbove, if_neg (Nat.not_lt.mpr hname.short), hfound]
  rfl

/-! ## Moving a file -/

/-- A path that can be followed: it is neither empty nor too long. -/
def CanBeFollowed (path : String) : Prop :=
  path ≠ "" ∧ isTooLong path = false

/-- Such a path leads where its names do. -/
theorem find_eq_follow (files : Files) {path : String} (hpath : CanBeFollowed path) :
    files.find path = files.follow (files.startOf path) .directory (namesOf path) := by
  have hempty : path.isEmpty = false := by simpa using hpath.1
  rw [find, hempty, hpath.2]
  rfl

section Checks

variable {α β : Type}

/-- Nothing is done behind a problem. -/
theorem throw_bind (problem : FileProblem) (rest : α → Except FileProblem β) :
    throw problem >>= rest = throw problem :=
  rfl

/-- A computation goes on past a check exactly if the check finds nothing wrong. -/
theorem check_eq_ok_iff {wrong : Prop} [Decidable wrong] {problem : FileProblem}
    {rest : Except FileProblem α} {result : α} :
    (if wrong then throw problem else rest) = .ok result ↔ ¬ wrong ∧ rest = .ok result := by
  by_cases h : wrong
  · rw [if_pos h]
    exact ⟨nofun, fun hresult => absurd h hresult.1⟩
  · rw [if_neg h, and_iff_right h]

/-- A computation in two parts succeeds exactly if both do. -/
theorem bind_eq_ok_iff {first : Except FileProblem α} {rest : α → Except FileProblem β}
    {result : β} :
    first >>= rest = .ok result ↔ ∃ value, first = .ok value ∧ rest value = .ok result := by
  cases first with
  | error problem => exact ⟨nofun, fun ⟨_, hfirst, _⟩ => nomatch hfirst⟩
  | ok value => exact ⟨fun h => ⟨value, rfl, h⟩, fun ⟨_, hfirst, h⟩ => Except.ok.inj hfirst ▸ h⟩

end Checks

/-- A file is moved exactly to a path whose names before the last lead to a directory, and whose
last name a file can have and no directory there has. -/
theorem move_eq_ok_iff {files moved : Files} {source : Place} {content : ByteArray}
    {path : String} :
    files.move source content path = .ok moved ↔
      CanBeFollowed path ∧ ∃ before last place, namesOf path = before ++ [last] ∧
        files.follow (files.startOf path) .directory before = .ok (place, .directory) ∧
        IsFileName last ∧ files.at? (place ++ [last]) ≠ some .directory ∧
        moved = (files.remove source).put (place ++ [last]) (.file content) := by
  simp only [move, throw_bind, check_eq_ok_iff]
  rw [← and_assoc]
  refine and_congr (by simp [CanBeFollowed]) ?_
  constructor
  · intro h
    cases hdropped : (namesOf path).reverse.dropWhile (· = "") with
    | nil =>
        rw [hdropped] at h
        cases h
    | cons last before =>
        rw [hdropped] at h
        simp only [bind_eq_ok_iff, check_eq_ok_iff] at h
        obtain ⟨⟨place, entry⟩, hfollow, hentry, hdots, hshort, hclosing, hfree, hmoved⟩ := h
        obtain rfl : entry = .directory := Classical.not_not.mp hentry
        -- No slash is left behind the last name.
        have hnone : (namesOf path).reverse.takeWhile (· = "") = [] := by
          rwa [Bool.not_eq_true, Bool.not_eq_false', List.isEmpty_iff] at hclosing
        have hbackwards : (namesOf path).reverse = last :: before := by
          rw [← hdropped, ← List.nil_append (List.dropWhile _ _), ← hnone,
            List.takeWhile_append_dropWhile]
        have hnamed : last ≠ "" := by
          have hhead := List.head?_dropWhile_not (· = "") (namesOf path).reverse
          rw [hdropped] at hhead
          simpa using hhead
        simp only [not_or] at hdots
        refine ⟨before.reverse, last, place, ?_, hfollow,
          ⟨hnamed, hdots.1, hdots.2, Nat.not_lt.mp hshort⟩, hfree, (Except.ok.inj hmoved).symm⟩
        rw [← List.reverse_reverse (namesOf path), hbackwards, List.reverse_cons]
  · rintro ⟨before, last, place, hnames, hfollow, hname, hfree, rfl⟩
    have hlast : ¬ decide (last = "") = true := by simpa using hname.named
    have hdots : ¬ (last = "." ∨ last = "..") := by simp [hname.notHere, hname.notAbove]
    have hbackwards : (namesOf path).reverse = last :: before.reverse := by
      rw [hnames, List.reverse_append]
      rfl
    have hdropped : (last :: before.reverse).dropWhile (· = "") = last :: before.reverse :=
      List.dropWhile_cons_of_neg hlast
    have hnone : (last :: before.reverse).takeWhile (· = "") = [] :=
      List.takeWhile_cons_of_neg hlast
    rw [hbackwards, hdropped, hnone]
    simp only [bind_eq_ok_iff, check_eq_ok_iff, List.reverse_reverse]
    exact ⟨(place, .directory), hfollow, by simp, hdots, Nat.not_lt.mpr hname.short, by simp, hfree,
      rfl⟩

/-- A file that is moved to a path is found there, and nothing else changes but the place from which
it was moved. -/
theorem find_of_move {files moved : Files} {source : Place} {content former : ByteArray}
    {path : String} (hsource : files.at? source = some (.file former))
    (h : files.move source content path = .ok moved) :
    ∃ target, moved.find path = .ok (target, .file content) ∧
      ∀ place, place ≠ source → place ≠ target → moved.at? place = files.at? place := by
  obtain ⟨hpath, before, last, place, hnames, hfollow, hname, hfree, rfl⟩ := move_eq_ok_iff.mp h
  have htarget : place ++ [last] ≠ [] := List.append_ne_nil_of_right_ne_nil _ (List.cons_ne_nil _ _)
  let moved := (files.remove source).put (place ++ [last]) (.file content)
  have hothers : ∀ other, other ≠ source → other ≠ place ++ [last] →
      moved.at? other = files.at? other := by
    intro other hother hne
    exact (at_put_of_ne _ hne _).trans (at_remove_of_ne _ hother)
  have hkeeps : files.KeepsDirectories moved := by
    intro other hdirectory
    rw [hothers other, hdirectory]
    · rintro rfl
      cases hsource.symm.trans hdirectory
    · rintro rfl
      exact hfree hdirectory
  refine ⟨place ++ [last], ?_, hothers⟩
  have hstart : moved.startOf path = files.startOf path := rfl
  show moved.find path = _
  rw [find_eq_follow _ hpath, hnames, hstart, follow_append hkeeps hfollow]
  exact follow_name hname (at_put_self _ htarget _)

/-- A file with the bytes of a text is read as the text. -/
theorem read_text_of_find {files : Files} {path text : String} {place : Place}
    (h : files.find path = .ok (place, .file text.toUTF8)) : files.readText path = .ok text := by
  have hdecoded := Session.decode_bytes_of text
  rw [Session.decode?, Session.bytesOf, Array.toArray_toList] at hdecoded
  simp only [readText, h]
  rw [hdecoded]

/-- What a tree of files gains when a text is written to a path: the path reads the text, and
everything else is as before, apart from places under the name of the temporary file. -/
structure Gains (before after : Files) (temporary path text : String) : Prop where
  reads : after.readText path = .ok text
  others : ∃ target, after.find path = .ok (target, .file text.toUTF8) ∧
    ∀ place, place ≠ target → place.getLast? ≠ some temporary →
      after.at? place = before.at? place

end Files

namespace CommandLine

variable {τ : Type} {surroundings : Surroundings τ}

/-! ## Writing a script -/

/-- The path of the temporary file for a script. -/
def unfinishedPath (surroundings : Surroundings τ) (path : String) : String :=
  let directory := Files.directoryOf path
  Files.pathIn
    (if directory.toList.head? = some '/' then directory
      else Files.pathIn surroundings.workingDirectory directory)
    surroundings.temporaryName

/-- A script is written exactly if its temporary file can be made and moved. -/
theorem write_script_eq_ok_iff {path text : String} {files : Files} :
    writeScript surroundings path text = (files, .ok ()) ↔
      Files.isTooLong (unfinishedPath surroundings path) = false ∧
        ∃ place, surroundings.files.find (Files.directoryOf path) = .ok (place, .directory) ∧
          (surroundings.files.put (place ++ [surroundings.temporaryName])
              (.file text.toUTF8)).move (place ++ [surroundings.temporaryName]) text.toUTF8 path =
            .ok files := by
  have hunfinished : unfinishedPath surroundings path =
      Files.pathIn
        (if (Files.directoryOf path).toList.head? = some '/' then Files.directoryOf path
          else Files.pathIn surroundings.workingDirectory (Files.directoryOf path))
        surroundings.temporaryName := rfl
  simp only [writeScript, ← hunfinished]
  generalize text.toUTF8 = content
  cases Files.isTooLong (unfinishedPath surroundings path) with
  | true => simp
  | false =>
      rcases surroundings.files.find (Files.directoryOf path) with problem | ⟨place, entry⟩
      · simp
      cases entry with
      | directory =>
          rcases hmove : (surroundings.files.put (place ++ [surroundings.temporaryName])
            (.file content)).move (place ++ [surroundings.temporaryName]) content path with
            problem | moved <;> simp [hmove]
      | file | program => simp

/-- After a script was written, its path reads its text. -/
theorem gains_of_write_script {path text : String} {files : Files}
    (h : writeScript surroundings path text = (files, .ok ())) :
    surroundings.files.Gains files surroundings.temporaryName path text := by
  obtain ⟨-, place, -, hmove⟩ := write_script_eq_ok_iff.mp h
  have htemporary : place ++ [surroundings.temporaryName] ≠ [] :=
    List.append_ne_nil_of_right_ne_nil _ (List.cons_ne_nil _ _)
  obtain ⟨target, hfind, hothers⟩ :=
    Files.find_of_move (Files.at_put_self _ htemporary _) hmove
  refine ⟨Files.read_text_of_find hfind, target, hfind, ?_⟩
  intro other htarget hlast
  have hne : other ≠ place ++ [surroundings.temporaryName] := by
    rintro rfl
    exact hlast List.getLast?_concat
  exact (hothers other hne htarget).trans (Files.at_put_of_ne _ hne _)

/-- A name under which a file can be written to the working directory. -/
structure TakesFile (surroundings : Surroundings τ) (name : String) : Prop where
  isName : Files.IsFileName name
  plain : '/' ∉ name.toList
  free : surroundings.files.at? (surroundings.files.working ++ [name]) ≠ some .directory
  short : Files.isTooLong (Files.pathIn (Files.pathIn surroundings.workingDirectory ".")
    surroundings.temporaryName) = false

/-- A script can be written under such a name. -/
theorem TakesFile.write_script {name : String} (h : TakesFile surroundings name) (text : String) :
    ∃ files, writeScript surroundings name text = (files, .ok ()) := by
  have hnames : Files.namesOf name = [name] := Text.pieces_eq_singleton h.plain
  have hhead : name.toList.head? ≠ some '/' := fun hslash => h.plain (List.mem_of_head? hslash)
  have hdirectory : Files.directoryOf name = "." := by
    simp [Files.directoryOf, hnames, Files.isPart, h.isName.named, hhead]
  have hstart (files : Files) : files.startOf name = files.working := if_neg hhead
  have hpath : Files.CanBeFollowed name := by
    refine ⟨h.isName.named, decide_eq_false (Nat.not_le.mpr ?_)⟩
    exact Nat.lt_of_le_of_lt h.isName.short (by decide)
  have hhere : surroundings.files.find "." = .ok (surroundings.files.working, .directory) := rfl
  have hshort : Files.isTooLong (unfinishedPath surroundings name) = false := by
    rw [unfinishedPath, hdirectory]
    exact h.short
  let temporary := surroundings.files.working ++ [surroundings.temporaryName]
  let written := surroundings.files.put temporary (.file text.toUTF8)
  have hfree : written.at? (surroundings.files.working ++ [name]) ≠ some .directory := by
    by_cases hsame : surroundings.files.working ++ [name] = temporary
    · rw [hsame, Files.at_put_self _ (by simp [temporary])]
      nofun
    · rw [Files.at_put_of_ne _ hsame]
      exact h.free
  have hfollow : written.follow (written.startOf name) .directory [] =
      .ok (surroundings.files.working, .directory) := by
    rw [hstart written]
    rfl
  rw [← hdirectory] at hhere
  exact ⟨_, write_script_eq_ok_iff.mpr ⟨hshort, _, hhere, Files.move_eq_ok_iff.mpr
    ⟨hpath, [], name, _, hnames, hfollow, h.isName, hfree, rfl⟩⟩⟩

end CommandLine

end StagedSynthesis
