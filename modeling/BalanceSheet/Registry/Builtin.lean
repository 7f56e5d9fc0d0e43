import BalanceSheet.Registry.Basic

/-!
The balance sheet that is served where no other registry is configured: transactions, inventory and
purchases of a chain of stores.
-/

namespace BalanceSheet.Registry.Builtin

/-- The columns that every table has, and then its own. -/
def columns (own : List Column) : List Column :=
  [⟨"date", .date⟩, ⟨"store_id", .string⟩, ⟨"brand", .string⟩, ⟨"category", .string⟩,
    ⟨"region", .string⟩] ++ own

def tables : List Table :=
  [⟨"transactions", "date", columns
      [⟨"seller_id", .string⟩, ⟨"seller_name", .string⟩, ⟨"customer_id", .string⟩,
        ⟨"customer_name", .string⟩, ⟨"transaction_id", .string⟩, ⟨"sales_price", .float64⟩,
        ⟨"gross_margin", .float64⟩, ⟨"quantity", .float64⟩]⟩,
    ⟨"inventory", "date", columns [⟨"stock_value", .float64⟩, ⟨"stock_quantity", .float64⟩]⟩,
    ⟨"purchases", "date", columns
      [⟨"supplier_id", .string⟩, ⟨"purchase_value", .float64⟩, ⟨"purchase_quantity", .float64⟩]⟩]

def base : List BaseMetric :=
  [⟨"transactions", "sales_price", .sum, "sales"⟩,
    ⟨"transactions", "gross_margin", .sum, "gross_margin"⟩,
    ⟨"transactions", "quantity", .sum, "units_sold"⟩,
    ⟨"transactions", "transaction_id", .countDistinct, "transaction_count"⟩,
    ⟨"inventory", "stock_value", .avg, "stock_value"⟩,
    ⟨"inventory", "stock_quantity", .avg, "stock_units"⟩,
    ⟨"purchases", "purchase_value", .sum, "purchases"⟩,
    ⟨"purchases", "purchase_quantity", .sum, "purchased_units"⟩]

/-- The quotient of two metrics, which is zero where the divisor is. -/
def ratio (name dividend divisor : String) : CalculatedMetric :=
  ⟨name, [dividend, divisor],
    "if(\x7b" ++ divisor ++ "\x7d != 0, \x7b" ++ dividend ++ "\x7d / \x7b" ++ divisor ++ "\x7d, 0)"⟩

/-- The quotient of two metrics in percent. -/
def percentage (name dividend divisor : String) : CalculatedMetric :=
  ⟨name, [dividend, divisor],
    "if(\x7b" ++ divisor ++ "\x7d != 0, (\x7b" ++ dividend ++ "\x7d / \x7b" ++ divisor ++ "\x7d) * 100, 0)"⟩

/-- The unit margin depends on the unit price, which is declared after it. -/
def calculated : List CalculatedMetric :=
  [percentage "gross_margin_pct" "gross_margin" "sales",
    ratio "avg_ticket" "sales" "transaction_count",
    ⟨"avg_unit_margin", ["avg_unit_price", "gross_margin_pct"],
      "\x7bavg_unit_price\x7d * \x7bgross_margin_pct\x7d / 100"⟩,
    ratio "avg_unit_price" "sales" "units_sold",
    ratio "stock_turnover" "sales" "stock_value",
    ratio "gmroi" "gross_margin" "stock_value",
    percentage "purchases_to_sales_pct" "purchases" "sales"]

def column (name : String) : Dimension := ⟨name, none, none⟩

/-- A column of keys whose names stand in a column of the transactions. -/
def paired (name nameColumn : String) : Dimension := ⟨name, none, some ⟨"transactions", nameColumn⟩⟩

def time (name : String) (bucket : Granularity) : Dimension := ⟨name, some bucket, none⟩

def dimensions : List Dimension :=
  [paired "seller_id" "seller_name", paired "customer_id" "customer_name", column "store_id",
    column "brand", column "category", column "region", time "month" .monthly, time "quarter" .quarterly,
    time "year" .yearly]

end Builtin

/-- The built-in balance sheet. -/
def builtin : Registry := ⟨Builtin.tables, Builtin.base, Builtin.calculated, Builtin.dimensions⟩

end BalanceSheet.Registry
