import CloudSpend.Store.Schema

/-! # Setting up -/

namespace CloudSpend.Task

def tableNames : List String := Store.Table.all.map Store.Table.name

def sortedTableNames : List String := tableNames.mergeSort fun a b => !(b < a)

def setupReport : String :=
  "✅ All database tables created successfully!\n📋 Tables: " ++ ", ".intercalate tableNames ++ "\n"

end CloudSpend.Task
