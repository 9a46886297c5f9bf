import Listing.Column.Basic

/-!
# Resources

The lists that the console can show, where a server keeps them, and the columns that each
of them always has.
-/

namespace Listing

inductive Resource where
  | projects
  | templates
deriving DecidableEq, Repr

namespace Resource

def name : Resource → String
  | .projects => "projects"
  | .templates => "templates"

def ofName? (name : String) : Option Resource := [projects, templates].find? (·.name = name)

def path : Resource → String
  | .projects => "/api/projects"
  | .templates => "/api/templates"

def defaultColumns : Resource → List Column
  | .projects => [.plain "Project" "name", .plain "Path" "path"]
  | .templates =>
    [.plain "Template" "name", .plain "Remote" "gitRemotePath", .plain "Path" "path",
      .plain "Status" "statusText"]

end Resource

end Listing
