import CulpritFinding.Json.Format

namespace CulpritFinding

inductive ChangeType
  | add
  | modify
  | delete
  | rename
  | copy
  deriving DecidableEq

namespace ChangeType

def name : ChangeType → String
  | add => "ADD"
  | modify => "MODIFY"
  | delete => "DELETE"
  | rename => "RENAME"
  | copy => "COPY"

def all : List ChangeType := [add, modify, delete, rename, copy]

def format : Format ChangeType := .enum all name

end ChangeType

structure FileChange where
  changeType : ChangeType
  oldPath : Option String
  newPath : Option String
  deriving DecidableEq

namespace FileChange

/-- The path that names a change: the new path, or the old one where the file was deleted or the
new path is unknown. -/
def path? (c : FileChange) : Option String :=
  if c.changeType = .delete then c.oldPath else c.newPath <|> c.oldPath

def format : Format FileChange := .record <|
  Shape.pure FileChange.mk
    |>.required "change_type" ChangeType.format (·.changeType)
    |>.optional "old_path" .text (·.oldPath)
    |>.optional "new_path" .text (·.newPath)

end FileChange

structure ChangeLog where
  revision : String
  commitPosition : Option Int
  author : String
  touchedFiles : List FileChange
  repoName : String
  deriving DecidableEq

namespace ChangeLog

def format : Format ChangeLog := .record <|
  Shape.pure ChangeLog.mk
    |>.required "revision" .text (·.revision)
    |>.optional "commit_position" .int64 (·.commitPosition)
    |>.required "author" .text (·.author)
    |>.withDefault "touched_files" (.list FileChange.format) (·.touchedFiles) []
    |>.required "repo_name" .text (·.repoName)

end ChangeLog

abbrev ChangeLogs := SortedMap String ChangeLog

structure DependencyRoll where
  depPath : String
  repoUrl : String
  oldRevision : Option String
  newRevision : String
  deriving DecidableEq

namespace DependencyRoll

def format : Format DependencyRoll := .record <|
  Shape.pure DependencyRoll.mk
    |>.required "dep_path" .text (·.depPath)
    |>.required "repo_url" .text (·.repoUrl)
    |>.optional "old_revision" .text (·.oldRevision)
    |>.required "new_revision" .text (·.newRevision)

end DependencyRoll

abbrev DependencyRolls := SortedMap String (List DependencyRoll)

def DependencyRolls.format : Format DependencyRolls := .map (.list DependencyRoll.format)

end CulpritFinding
