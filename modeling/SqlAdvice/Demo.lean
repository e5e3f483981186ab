import SqlAdvice.Registry.Basic

/-!
# A demonstration

A statement over two tables and a registry with indexes for both, to try the library with.
-/

namespace SqlAdvice.Demo

/-- The indexes of the two tables. -/
def registry : Registry where
  entries := [
    ⟨"Customers",
      "CREATE CLUSTERED INDEX PK_Customers ON Customers(CustomerID);\n" ++
        "CREATE NONCLUSTERED INDEX IX_Customers_Name ON Customers(LastName, FirstName);"⟩,
    ⟨"Orders",
      "CREATE CLUSTERED INDEX PK_Orders ON Orders(OrderID);\n" ++
        "CREATE NONCLUSTERED INDEX IX_Orders_CustomerID ON Orders(CustomerID) " ++
        "INCLUDE (OrderDate, TotalAmount);"⟩]

/-- The statement. -/
def query : String :=
  "SELECT c.CustomerID, c.FirstName, c.LastName, c.Email,\n" ++
    "       o.OrderID, o.OrderDate, o.TotalAmount\n" ++
    "FROM Customers c\n" ++
    "INNER JOIN Orders o ON c.CustomerID = o.CustomerID\n" ++
    "WHERE c.LastName LIKE 'Smith%'\n" ++
    "ORDER BY o.OrderDate DESC;"

end SqlAdvice.Demo
