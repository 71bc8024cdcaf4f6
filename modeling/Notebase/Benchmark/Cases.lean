import Notebase.Benchmark.Basic

/-!
The built-in benchmark cases: one for each way in which a document comes about, and sessions
that change one.
-/

namespace Notebase.Benchmark

def descriptionOf (id : Text) : Text :=
  ((Catalog.builtin.templates.get? id).map (·.description)).getD []

/-- The built-in cases. -/
def cases : List Case := [
  { name := "template_fast_path".toList
    instructions := [descriptionOf "progress".toList]
    route := some "template".toList
    tag := some "project".toList
    groupBy := some "formula.status_label".toList },
  { name := "keyword_birthday".toList
    instructions := [
      "Track birthdays of people and show days until and age, sorted by days until ascending".toList]
    route := some "keyword".toList
    tag := some "person".toList
    inOrder := ["formula.remaining_days".toList, "formula.age".toList]
    sort := some [
      ("property".toList, "formula.remaining_days".toList),
      ("direction".toList, "ASC".toList)] },
  { name := "keyword_tasks".toList
    instructions := ["My todo notes with priority and due dates".toList]
    route := some "keyword".toList
    tag := some "task".toList },
  { name := "synthesized_recipes".toList
    instructions := ["notes tagged #recipes in folder Cooking as cards".toList]
    route := some "synthesized".toList
    tag := some "recipes".toList
    folder := some "Cooking".toList
    viewType := some "cards".toList
    inOrder := ["file.name".toList, "formula.word_count".toList] },
  { name := "synthesized_property_list".toList
    instructions := ["notes tagged #recipes, show \"cuisine\" and \"servings\"".toList]
    route := some "synthesized".toList
    inOrder := ["cuisine".toList, "servings".toList]
    notInOrder := ["formula.word_count".toList] },
  { name := "patch_tag_and_sort".toList
    instructions := [
      "notes tagged #recipes".toList, "use #desserts and sort by size descending".toList]
    route := some "patched".toList
    tag := some "desserts".toList
    sort := some [
      ("property".toList, "file.size".toList), ("direction".toList, "DESC".toList)] },
  { name := "patch_view_and_rename".toList
    instructions := [
      "notes tagged #recipes".toList,
      "show them as a list and rename it to \"Cookbook\"".toList]
    route := some "patched".toList
    viewType := some "list".toList
    viewName := some "Cookbook".toList },
  { name := "patch_add_then_remove".toList
    instructions := [
      "notes tagged #recipes".toList, "add cuisine and file size".toList, "hide cuisine".toList]
    route := some "patched".toList
    inOrder := ["file.size".toList]
    notInOrder := ["cuisine".toList] },
  { name := "patch_group_by_folder".toList
    instructions := ["notes in Projects".toList, "group by folder".toList]
    route := some "patched".toList
    folder := some "Projects".toList
    groupBy := some "file.folder".toList }]

end Notebase.Benchmark
