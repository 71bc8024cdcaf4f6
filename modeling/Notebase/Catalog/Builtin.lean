import Notebase.Catalog.Basic
import Notebase.Document.Render

/-!
The built-in catalog: six templates that people pick by their description, three more documents
that only keywords lead to, and the table of keywords.
-/

namespace Notebase.Catalog.Builtin

def document (ls : List String) : Text := Document.joinLines (ls.map String.toList)

/-! ### Documents -/

/-- A table of projects with a progress bar. -/
def progressDocument : Text := document [
  "filters:",
  "  and:",
  "    - file.hasTag(\"project\")",
  "    - 'file.ext == \"md\"'",
  "",
  "formulas:",
  "  percent: \"(progress / 100 * 100).round(1)\"",
  "  bar: |",
  "    if(progress,",
  "      \"\\u2590\".repeat((progress / 10).round(0)) +",
  "      \"\\u2591\".repeat(10 - (progress / 10).round(0)),",
  "      \"\\u2591\".repeat(10)",
  "    )",
  "  status_label: |",
  "    if(progress >= 100, \"Done\",",
  "      if(progress >= 50, \"In Progress\",",
  "        if(progress > 0, \"Started\", \"Not Started\")))",
  "",
  "properties:",
  "  formula.percent:",
  "    displayName: \"Completion %\"",
  "  formula.bar:",
  "    displayName: \"Progress\"",
  "  formula.status_label:",
  "    displayName: \"Status\"",
  "",
  "views:",
  "  - type: table",
  "    name: \"Project Tracker\"",
  "    order:",
  "      - file.name",
  "      - formula.status_label",
  "      - formula.percent",
  "      - formula.bar",
  "    groupBy:",
  "      property: formula.status_label",
  "      direction: ASC",
  "    summaries:",
  "      progress: Average"]

/-- A table of reviews with stars. -/
def ratingsDocument : Text := document [
  "filters:",
  "  and:",
  "    - file.hasTag(\"review\")",
  "",
  "formulas:",
  "  stars: |",
  "    if(rating.isEmpty() || rating < 1 || rating > 10,",
  "      \"11111\".split(\"\").map(icon(\"star-off\")),",
  "      \"11111\".split(\"\").slice(0, number(rating / 2).floor()).map(icon(\"star\"))",
  "      + if(number(rating / 2) - number(rating / 2).floor() >= 0.5,",
  "          [icon(\"star-half\")], [])",
  "    )",
  "  score_label: 'if(rating, rating.toFixed(1) + \" / 10\", \"-\")'",
  "",
  "properties:",
  "  formula.stars:",
  "    displayName: \"Rating\"",
  "  formula.score_label:",
  "    displayName: \"Score\"",
  "",
  "views:",
  "  - type: table",
  "    name: \"Reviews\"",
  "    order:",
  "      - file.name",
  "      - category",
  "      - formula.stars",
  "      - formula.score_label",
  "    summaries:",
  "      rating: Average"]

/-- Trips on a map, and as a table. -/
def mapDocument : Text := document [
  "filters:",
  "  and:",
  "    - file.hasTag(\"travel\")",
  "    - file.inFolder(\"Travel\")",
  "",
  "formulas:",
  "  trip_year: 'if(date, date(date).format(\"YYYY\"), \"\")'",
  "  days_ago: 'if(date, (today() - date(date)).days.round(0).toString() + \" days ago\", \"\")'",
  "",
  "properties:",
  "  formula.trip_year:",
  "    displayName: \"Year\"",
  "  formula.days_ago:",
  "    displayName: \"When\"",
  "",
  "views:",
  "  - type: map",
  "    name: \"Trip Map\"",
  "    coordinates: note.location",
  "    markerIcon: note.icon",
  "    markerColor: note.color",
  "    defaultZoom: 4",
  "    maxZoom: 18",
  "",
  "  - type: table",
  "    name: \"Trip List\"",
  "    order:",
  "      - file.name",
  "      - location",
  "      - formula.trip_year",
  "      - formula.days_ago"]

/-- A table of people by the days to their birthday. -/
def birthdayDocument : Text := document [
  "filters:",
  "  and:",
  "    - file.hasTag(\"person\")",
  "    - \"!birthday.isEmpty()\"",
  "",
  "formulas:",
  "  remaining_days: |-",
  "    ((number(",
  "      date(today().format(\"YYYY\") + \"-\" + birthday.format(\"MM-DD\")) +",
  "      if(date(today().format(\"YYYY\") + \"-\" + birthday.format(\"MM-DD\")) < today(), \"1y\", \"0y\")",
  "    ) - number(today())) / 86400000).round()",
  "  age: |-",
  "    if(birthday.format(\"MM-DD\") <= today().format(\"MM-DD\"),",
  "      today() - birthday,",
  "      today() - (birthday + duration(\"1 year\")))",
  "  upcoming: |",
  "    if(formula.remaining_days <= 7, \"This week!\",",
  "      if(formula.remaining_days <= 30, \"This month\", \"\"))",
  "",
  "properties:",
  "  formula.remaining_days:",
  "    displayName: \"Days Until\"",
  "  formula.age:",
  "    displayName: \"Age\"",
  "  formula.upcoming:",
  "    displayName: \"Soon?\"",
  "",
  "views:",
  "  - type: table",
  "    name: \"Birthdays\"",
  "    order:",
  "      - file.name",
  "      - birthday",
  "      - formula.age",
  "      - formula.remaining_days",
  "      - formula.upcoming",
  "    sort:",
  "      - property: formula.remaining_days",
  "        direction: ASC"]

/-- Notes that nothing links to, and very short notes. -/
def cleanerDocument : Text := document [
  "filters:",
  "  and:",
  "    - 'file.ext == \"md\"'",
  "    - file.tags.isEmpty()",
  "    - file.links.isEmpty()",
  "",
  "formulas:",
  "  word_estimate: '(file.size / 5).round(0)'",
  "  age_days: '(now() - file.ctime).days.round(0)'",
  "  last_touched: 'file.mtime.relative()'",
  "",
  "properties:",
  "  formula.word_estimate:",
  "    displayName: \"~Words\"",
  "  formula.age_days:",
  "    displayName: \"Age (days)\"",
  "  formula.last_touched:",
  "    displayName: \"Last Modified\"",
  "",
  "views:",
  "  - type: table",
  "    name: \"Orphan Notes\"",
  "    order:",
  "      - file.name",
  "      - file.folder",
  "      - formula.word_estimate",
  "      - formula.age_days",
  "      - formula.last_touched",
  "    summaries:",
  "      formula.word_estimate: Sum",
  "",
  "  - type: table",
  "    name: \"Tiny Notes\"",
  "    filters:",
  "      and:",
  "        - 'file.size < 500'",
  "    order:",
  "      - file.name",
  "      - file.size",
  "      - formula.last_touched"]

/-- An overview of the notes in a folder. -/
def summaryDocument : Text := document [
  "filters:",
  "  and:",
  "    - file.inFolder(\"Projects\")",
  "    - 'file.ext == \"md\"'",
  "",
  "formulas:",
  "  last_updated: 'file.mtime.relative()'",
  "  link_count: 'file.links.length'",
  "  tag_count: 'file.tags.length'",
  "",
  "summaries:",
  "  avg_links: 'values.filter(value.isType(\"number\")).mean().round(1)'",
  "",
  "properties:",
  "  formula.last_updated:",
  "    displayName: \"Updated\"",
  "  formula.link_count:",
  "    displayName: \"Links\"",
  "  formula.tag_count:",
  "    displayName: \"Tags\"",
  "",
  "views:",
  "  - type: table",
  "    name: \"Content Overview\"",
  "    order:",
  "      - file.name",
  "      - status",
  "      - formula.link_count",
  "      - formula.tag_count",
  "      - formula.last_updated",
  "    summaries:",
  "      formula.link_count: avg_links",
  "      formula.tag_count: Sum",
  "    groupBy:",
  "      property: status",
  "      direction: ASC",
  "",
  "  - type: list",
  "    name: \"Quick List\"",
  "    order:",
  "      - file.name",
  "      - status"]

/-- Open and completed tasks. -/
def taskDocument : Text := document [
  "filters:",
  "  and:",
  "    - file.hasTag(\"task\")",
  "    - 'file.ext == \"md\"'",
  "",
  "formulas:",
  "  days_until_due: 'if(due, (date(due) - today()).days, \"\")'",
  "  is_overdue: 'if(due, date(due) < today() && status != \"done\", false)'",
  "  priority_label: |",
  "    if(priority == 1, \"High\",",
  "      if(priority == 2, \"Medium\", \"Low\"))",
  "",
  "properties:",
  "  formula.days_until_due:",
  "    displayName: \"Days Until Due\"",
  "  formula.priority_label:",
  "    displayName: \"Priority\"",
  "",
  "views:",
  "  - type: table",
  "    name: \"Active Tasks\"",
  "    filters:",
  "      and:",
  "        - 'status != \"done\"'",
  "    order:",
  "      - file.name",
  "      - status",
  "      - formula.priority_label",
  "      - due",
  "      - formula.days_until_due",
  "    groupBy:",
  "      property: status",
  "      direction: ASC",
  "    summaries:",
  "      formula.days_until_due: Average",
  "",
  "  - type: table",
  "    name: \"Completed\"",
  "    filters:",
  "      and:",
  "        - 'status == \"done\"'",
  "    order:",
  "      - file.name",
  "      - completed_date"]

/-- Books and articles to read, and a library of covers. -/
def readingDocument : Text := document [
  "filters:",
  "  or:",
  "    - file.hasTag(\"book\")",
  "    - file.hasTag(\"article\")",
  "",
  "formulas:",
  "  reading_time: 'if(pages, (pages * 2).toString() + \" min\", \"\")'",
  "  status_icon: |",
  "    if(status == \"reading\", icon(\"book-open\"),",
  "      if(status == \"done\", icon(\"check-circle\"), icon(\"bookmark\")))",
  "  year_read: 'if(finished_date, date(finished_date).year, \"\")'",
  "",
  "properties:",
  "  formula.status_icon:",
  "    displayName: \"\"",
  "  formula.reading_time:",
  "    displayName: \"Est. Time\"",
  "",
  "views:",
  "  - type: table",
  "    name: \"Reading List\"",
  "    filters:",
  "      and:",
  "        - 'status == \"to-read\"'",
  "    order:",
  "      - file.name",
  "      - author",
  "      - pages",
  "      - formula.reading_time",
  "",
  "  - type: cards",
  "    name: \"Library\"",
  "    order:",
  "      - cover",
  "      - file.name",
  "      - author",
  "      - formula.status_icon",
  "    filters:",
  "      not:",
  "        - 'status == \"dropped\"'"]

/-- The latest daily notes. -/
def dailyDocument : Text := document [
  "filters:",
  "  and:",
  "    - file.inFolder(\"Daily Notes\")",
  "    - '/^\\d\x7b4\x7d-\\d\x7b2\x7d-\\d\x7b2\x7d$/.matches(file.basename)'",
  "",
  "formulas:",
  "  word_estimate: '(file.size / 5).round(0)'",
  "  day_of_week: 'date(file.basename).format(\"dddd\")'",
  "",
  "properties:",
  "  formula.day_of_week:",
  "    displayName: \"Day\"",
  "  formula.word_estimate:",
  "    displayName: \"~Words\"",
  "",
  "views:",
  "  - type: table",
  "    name: \"Recent Notes\"",
  "    limit: 30",
  "    order:",
  "      - file.name",
  "      - formula.day_of_week",
  "      - formula.word_estimate",
  "      - file.mtime"]

/-! ### The catalog -/

/-- The templates that people pick. -/
def templates : Dict Text Template := [
  ("progress".toList, {
    label := "Project Progress Bar".toList
    description :=
      "Show all notes tagged #project with a visual progress bar based on a ".toList ++
      "'progress' property (0–100).".toList
    document := progressDocument }),
  ("ratings".toList, {
    label := "Star Ratings Table".toList
    description :=
      "Display notes tagged #review with a visual 5-star rating derived from a ".toList ++
      "'rating' property (1–10).".toList
    document := ratingsDocument }),
  ("map".toList, {
    label := "Travel Trip Map".toList
    description :=
      "Plot notes tagged #travel that live in a Travel folder on an interactive map ".toList ++
      "using location coordinates.".toList
    document := mapDocument }),
  ("birthday".toList, {
    label := "Birthday Tracker".toList
    description :=
      "Track birthdays of notes tagged #person and compute remaining days and current ".toList ++
      "age.".toList
    document := birthdayDocument }),
  ("cleaner".toList, {
    label := "Vault Cleaner".toList
    description :=
      "Find orphan notes with no tags, no outgoing links, and small file size, ".toList ++
      "candidates for cleanup.".toList
    document := cleanerDocument }),
  ("summary".toList, {
    label := "Content Summary".toList
    description :=
      "Aggregate notes in a folder with custom summary formulas: averages, counts, ".toList ++
      "and totals.".toList
    document := summaryDocument })]

def extras : Dict Text Text := [
  ("task".toList, taskDocument),
  ("reading".toList, readingDocument),
  ("daily".toList, dailyDocument)]

/-- The keywords of each document; the earlier entry wins a tie. -/
def keywordWords : List (String × List String) := [
  ("progress", ["progress", "bar", "percent", "completion", "track progress"]),
  ("ratings", ["star", "rating", "review", "score", "rate"]),
  ("map", ["map", "travel", "trip", "location", "geo", "coordinate"]),
  ("birthday", ["birthday", "age", "person", "anniversary", "born"]),
  ("cleaner", ["clean", "orphan", "untagged", "unused", "empty", "messy", "vault cleaner"]),
  ("summary", ["summary", "aggregate", "count", "total", "overview", "content"]),
  ("task", ["task", "todo", "due", "overdue", "priority"]),
  ("reading", ["book", "reading", "library", "article", "read"]),
  ("daily", ["daily", "journal", "diary", "day"])]

def keywords : KeywordTable :=
  keywordWords.map fun (category, words) => (category.toList, words.map String.toList)

end Builtin

def builtin : Catalog := ⟨Builtin.templates, Builtin.extras, Builtin.keywords⟩

end Notebase.Catalog
