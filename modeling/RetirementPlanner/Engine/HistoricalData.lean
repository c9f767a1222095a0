import Mathlib.Data.Rat.Defs
import Mathlib.Data.Rat.Cast.Defs
import Mathlib.Algebra.Order.Field.Basic
import Mathlib.Algebra.Order.Field.Rat
import RetirementPlanner.Lib.Numerals

/-!
# Historical US market returns, 1928-2025

The table of `historical_data.rs`, in exact decimals: nominal stock and bond
returns and CPI-U inflation. The dividend yields are left out, since nothing
in the engine reads them.
-/

namespace RetirementPlanner.Engine

structure AnnualMarketReturn where
  year : ℕ
  stockReturn : ℚ
  bondReturn : ℚ
  inflationRate : ℚ
  deriving DecidableEq, Repr

def historicalReturns : List AnnualMarketReturn := [
  ⟨1928, 0.4381, 0.0084, -0.012⟩, ⟨1929, -0.083, 0.042, 0.006⟩, ⟨1930, -0.2512, 0.0454, -0.064⟩,
  ⟨1931, -0.4384, -0.0256, -0.093⟩, ⟨1932, -0.0864, 0.0879, -0.103⟩, ⟨1933, 0.4998, 0.0186, 0.008⟩,
  ⟨1934, -0.0119, 0.0796, 0.015⟩, ⟨1935, 0.4674, 0.0447, 0.03⟩, ⟨1936, 0.3194, 0.0502, 0.014⟩,
  ⟨1937, -0.3534, 0.0138, 0.029⟩, ⟨1938, 0.2928, 0.0421, -0.028⟩, ⟨1939, -0.011, 0.0441, 0.0⟩,
  ⟨1940, -0.1067, 0.054, 0.007⟩, ⟨1941, -0.1277, -0.0202, 0.099⟩, ⟨1942, 0.1917, 0.0229, 0.09⟩,
  ⟨1943, 0.2506, 0.0249, 0.03⟩, ⟨1944, 0.1903, 0.0258, 0.023⟩, ⟨1945, 0.3582, 0.038, 0.022⟩,
  ⟨1946, -0.0843, 0.0313, 0.181⟩, ⟨1947, 0.052, 0.0092, 0.088⟩, ⟨1948, 0.057, 0.0195, 0.03⟩,
  ⟨1949, 0.183, 0.0466, -0.021⟩, ⟨1950, 0.3081, 0.0043, 0.059⟩, ⟨1951, 0.2368, -0.003, 0.06⟩,
  ⟨1952, 0.1815, 0.0227, 0.008⟩, ⟨1953, -0.0121, 0.0414, 0.007⟩, ⟨1954, 0.5256, 0.0329, -0.007⟩,
  ⟨1955, 0.326, -0.0134, 0.004⟩, ⟨1956, 0.0744, -0.0226, 0.03⟩, ⟨1957, -0.1046, 0.068, 0.029⟩,
  ⟨1958, 0.4372, -0.021, 0.018⟩, ⟨1959, 0.1206, -0.0265, 0.017⟩, ⟨1960, 0.0034, 0.1164, 0.014⟩,
  ⟨1961, 0.2664, 0.0206, 0.007⟩, ⟨1962, -0.0881, 0.0569, 0.013⟩, ⟨1963, 0.2261, 0.0168, 0.016⟩,
  ⟨1964, 0.1642, 0.0373, 0.01⟩, ⟨1965, 0.124, 0.0072, 0.019⟩, ⟨1966, -0.0997, 0.0291, 0.035⟩,
  ⟨1967, 0.238, -0.0158, 0.03⟩, ⟨1968, 0.1081, 0.0327, 0.047⟩, ⟨1969, -0.0824, -0.0501, 0.062⟩,
  ⟨1970, 0.0356, 0.1675, 0.056⟩, ⟨1971, 0.1422, 0.0979, 0.033⟩, ⟨1972, 0.1876, 0.0282, 0.034⟩,
  ⟨1973, -0.1431, 0.0366, 0.087⟩, ⟨1974, -0.259, 0.0199, 0.123⟩, ⟨1975, 0.37, 0.0361, 0.069⟩,
  ⟨1976, 0.2383, 0.1598, 0.049⟩, ⟨1977, -0.0698, 0.0129, 0.067⟩, ⟨1978, 0.0651, -0.0078, 0.09⟩,
  ⟨1979, 0.1852, 0.0067, 0.133⟩, ⟨1980, 0.3174, -0.0299, 0.125⟩, ⟨1981, -0.047, 0.082, 0.089⟩,
  ⟨1982, 0.2042, 0.3281, 0.038⟩, ⟨1983, 0.2234, 0.032, 0.038⟩, ⟨1984, 0.0615, 0.1373, 0.039⟩,
  ⟨1985, 0.3124, 0.2571, 0.038⟩, ⟨1986, 0.1849, 0.2428, 0.011⟩, ⟨1987, 0.0581, -0.0496, 0.044⟩,
  ⟨1988, 0.1654, 0.0822, 0.044⟩, ⟨1989, 0.3148, 0.1769, 0.046⟩, ⟨1990, -0.0306, 0.0624, 0.061⟩,
  ⟨1991, 0.3023, 0.15, 0.031⟩, ⟨1992, 0.0749, 0.0936, 0.029⟩, ⟨1993, 0.0997, 0.1421, 0.027⟩,
  ⟨1994, 0.0133, -0.0804, 0.027⟩, ⟨1995, 0.372, 0.2348, 0.025⟩, ⟨1996, 0.2268, 0.0143, 0.033⟩,
  ⟨1997, 0.331, 0.0994, 0.017⟩, ⟨1998, 0.2834, 0.1492, 0.016⟩, ⟨1999, 0.2089, -0.0825, 0.027⟩,
  ⟨2000, -0.0903, 0.1666, 0.034⟩, ⟨2001, -0.1185, 0.0557, 0.016⟩, ⟨2002, -0.2197, 0.1512, 0.024⟩,
  ⟨2003, 0.2836, 0.0038, 0.019⟩, ⟨2004, 0.1074, 0.0449, 0.033⟩, ⟨2005, 0.0483, 0.0287, 0.034⟩,
  ⟨2006, 0.1561, 0.0196, 0.025⟩, ⟨2007, 0.0548, 0.1021, 0.041⟩, ⟨2008, -0.3655, 0.201, 0.001⟩,
  ⟨2009, 0.2594, -0.1112, 0.027⟩, ⟨2010, 0.1482, 0.0846, 0.015⟩, ⟨2011, 0.021, 0.1604, 0.03⟩,
  ⟨2012, 0.1589, 0.0297, 0.017⟩, ⟨2013, 0.3215, -0.091, 0.015⟩, ⟨2014, 0.1352, 0.1075, 0.008⟩,
  ⟨2015, 0.0138, 0.0128, 0.007⟩, ⟨2016, 0.1177, 0.0069, 0.021⟩, ⟨2017, 0.2161, 0.028, 0.021⟩,
  ⟨2018, -0.0423, -0.0002, 0.019⟩, ⟨2019, 0.3121, 0.0964, 0.023⟩, ⟨2020, 0.1802, 0.1133, 0.014⟩,
  ⟨2021, 0.2847, -0.0442, 0.07⟩, ⟨2022, -0.1804, -0.1783, 0.065⟩, ⟨2023, 0.2606, 0.0388, 0.034⟩,
  ⟨2024, 0.2488, -0.0164, 0.029⟩, ⟨2025, 0.1772, 0.078, 0.027⟩]

/-- Long-run CPI, derived from the same dataset the engines sample, used only to
erode thresholds Congress never indexed. -/
def longRunInflation : ℚ :=
  (historicalReturns.map (·.inflationRate)).sum / historicalReturns.length

/-- The real returns of a historical year: `(1 + nominal) / (1 + inflation) - 1`. -/
def AnnualMarketReturn.realReturns (r : AnnualMarketReturn) : ℚ × ℚ :=
  ((1 + r.stockReturn) / (1 + r.inflationRate) - 1, (1 + r.bondReturn) / (1 + r.inflationRate) - 1)

theorem longRunInflation_pos : 0 < longRunInflation := by decide +kernel

/-- No year of the table loses the whole price level. -/
theorem inflationRate_gt : ∀ r ∈ historicalReturns, -1 < r.inflationRate := by decide +kernel

end RetirementPlanner.Engine
