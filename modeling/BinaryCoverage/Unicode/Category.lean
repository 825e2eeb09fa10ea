import BinaryCoverage.Unicode.CodeSet

/-!
# General categories

Every code point has one of thirty general categories, here marked by one character each.  This
file defines:

* `categoryMap` — the mark of every code point;
* `categories?` — the marks of a category or group of categories, by any of its names, which are
  written in lower case and without blanks, hyphens and underscores.
-/

namespace BinaryCoverage.Unicode

def categoryMap : CodeMap := .ofText
  (String.join
    ["0Aw-1V3X1V3W1S1V1Z1V1R1V2NaV2Z3V2JqW1V1S1Y1Q1Y1FqW1Z1S1Z1Ax-1V1X4+1V1Y1+1H1U1Z1B1+1Y1+1Z1P",
      "2Y1F1V2Y1P1H1T1P3V1JnZ1J7FoZ1F8J1F1J1F1J1F1J1F1J1F1J1F1J1F1J1F1J1F1J1F1J1F1J1F1J1F1J1F1J1F",
      "1J1F1J1F1J1F1J1F1J1F1J1F1J1F1J1F1J1F1J1F1J1F1J1F1J1F2J1F1J1F1J1F1J1F1J1F1J1F1J1F1J1F2J1F1J",
      "1F1J1F1J1F1J1F1J1F1J1F1J1F1J1F1J1F1J1F1J1F1J1F1J1F1J1F1J1F1J1F1J1F1J1F1J1F1J1F1J1F1J1F1J2F",
      "1J1F1J1F3J2F1J1F1J2F1J3F2J4F1J2F1J3F3J2F1J2F1J1F1J1F1J2F1J1F2J1F1J2F1J3F1J1F1J2F2H1J1F3H4J",
      "1I1F1J1I1F1J1I1F1J1F1J1F1J1F1J1F1J1F1J1F1J1F1J1F2J1F1J1F1J1F1J1F1J1F1J1F1J1F1J1F1J1F2J1I1F",
      "1J1F1J3F1J1F1J1F1J1F1J1F1J1F1J1F1J1F1J1F1J1F1J1F1J1F1J1F1J1F1J1F1J1F1J1F1J1F1J1F1J1F1J1F1J",
      "1F1J1F1J1F1J1F1J1F1J1F1J1F1J1F1J1F7J2F1J2F2J1F1J4F1J1F1J1F1J1F1J1F1xH1FrGiY4GcYeG5Y7G1Y1G1",
      "YhM34J1F1J1F1G1Y1J1F1C2G1F3V1J1C4Y2J1V1J3C1J1C1J2F1JhC1J9FzJ1F2J3F3J1F1J1F1J1F1J1F1J1F1J1F",
      "1J1F1J1F1J1F1J1F1J1F1J1F5J1F1Z1J1F1J2F2J1fF1cJ1F1J1F1J1F1J1F1J1F1J1F1J1F1J1F1J1F1J1F1J1F1J",
      "1F1J1F1J1F1J1F1J1F1J1F1+1M5L2J1F1J1F1J1F1J1F1J1F1J1F1J1F1J1F1J1F1J1F1J1F1J1F1J1F1J1F1J1F1J",
      "1F1J1F1J1F1J1F1J1F1J1F1J1F1J1F1J1F1J1F1J1F1J1F1J2F1J1F1J1F1J1F1J1F1J1F1J1F2J1F1J1F1J1F1J1F",
      "1J1F1J1F1J1F1J1F1J1F1J1F1J1F1J1F1J1F1J1F1J1F1J1F1J1F1J1F1J1F1J1F1J1F1J1F1J1F1J1F1J1F1J1F1J",
      "1F1J1F1J1F1J1F1J1F1J1F1J1F1J1F1J1F1J1F1J1F1J1F1J1F1J1F1J1F1J1F1J1F1J1F1J1F1J1F1J1F1J1F1C1J",
      "12C2G1V6F15V1R1C2+2X1C1M19R1M1V1M2V1M2V1M1C8HrC4H4V2CbB6Z3V2X1V2+2MbV1B1V3HwG1HaMlNaV4H2M1",
      "H2rV1H1M7B1+1M6G2M2+1M4H2NaH3+2H1VeC1B1H1M1HuMrC2H2hMbH1CeNaHxM9G2+1V3G1C2M1X2HmM4G1M9G1M3",
      "G1M5C2VfC1HpM3C2V1C1HbC5HoY1H6C1B2C6M8H15G1MoB1MwK1H1iM1K1M1H1K3M8K4M1K2H1M7HaM2V2NaV1G1Hf",
      "M1K2C1H8C2H2C2HmC1H7C1H1C3H4C2M1H1K3M4C2K2C2K2M1H1C8K1C4H2C1H3M2C2NaH2X2P6+1X1H1V1M1C2M2K1",
      "C1H6C4H2C2HmC1H7C1H2C1H2C1H2C2M1C1K3M2C4M2C2M3C3M1C7H4C1H1C7NaM2H3M1V1CaM2K1C1H9C1H3C1HmC1",
      "H7C1H2C1H5C2M1H1K3M5C1M2K1C1K2M1C2H1CfH2M2C2NaV1X1C7H1M6C1M1K2C1H8C2H2C2HmC1H7C1H2C1H5C2M1",
      "H1K1M1K1M4C2K2C2K2M1C7M2K1C4H2C1H3M2C2Na+1H1P6CaM1H1C1H6C3H3C1H4C3H2C1H1C1H2C3H2C3H3C3HcC4",
      "K2M1K2C3K3C1K3M1C2H1C6K1CeNaP3+6X1+1C5M1K3M1H8C1H3C1HnC1HgC2M1H1M3K4C1M3C1M4C7M2C1H3C2H1C2",
      "H2M2C2NaC7V1P7+1H1M1K2V1H8C1H3C1HnC1HaC1H5C2M1H1K1M1K5C1M1K2C1K2M2C7K2C6H2C1H2M2C2NaC1H2K1",
      "CcM2K2H9C1H3C1H15M2H1K3M4C1K3C1K3M1H1+1C4H3K1P7H3M2C2NaP9+1H6C1M1K2C1HiC3HoC1H9C1H1C2H7C3M",
      "1C4K3M3C1M1C1K8C6NaC2K2V1CcH1cM1H2M7C4X1H6G1M8V1NaV2C11H2C1H1C1H5C1HoC1H1C1HaM1H2M9H1C2H5C",
      "1G1C1M7C1NaC2H4CwH1+3Vf+1V1+3M2+6NaPa+1M1+1M1+1M1W1S1W1S1K2H8C1H10C4MeK1M5V1M2H5MbC1M10C1+",
      "8M1+6C1+2V5+4V2C11H17K2M4K1M6K1M2K2M2H1NaV6H6K2M2H4M3H1K3H2K7H3M4HdM1K2M2K6M1H1K1NaK3M1+2J",
      "12C1J1C5J1C2F17V1G1F3H95C1H4C2H7C1H1C1H4C2H15C1H4C2HxC1H4C2H7C1H1C1H4C2HfC1H1lC1H4C2H1vC2M",
      "3V9PkC3Hg+aC6J2eC2F6C2R1Hh8+1V1Hh-1HqW1S1C3H23V3O3H8C7HiM3K1C9HjM2K1V2C9HiM2CcHdC1H3C1M2Cc",
      "H1gM2K1M7K8M1K2MbV3G1V3X1H1M1C2NaC6PaC6V6R1V4M3B1M1NaC6HzG1H1hC7H5M2HyM1H1C5H1yCaHvC1M3K4M",
      "2K3C4K2M1K6M3C4+1C3V2NaHuC2H5CbH18C4HqC6NaP1C3+yHnM2K2M1C2V2H1hK1M1K1M7C1M1K1M1K2M8K6MaC2M",
      "1NaC6NaC6V7G1V6C2MeL1MgC1dM4K1H1bM1K1M5K1M1K5M1K2H8C3NaV7+aM9+9V2C1M2K1HuK1M4K2M2K1M3H2NaH",
      "18M1K1M2K3M1K1M3K2C8V4H10K8M8K2M2C3V5NaC3H3NaHuG6V2F9C7J17C2J3V8C8M3V1MdK1M7H4M1H6M1H2K1M2",
      "H1C5F18G1rFdG1FyG11M1sJ1F1J1F1J1F1J1F1J1F1J1F1J1F1J1F1J1F1J1F1J1F1J1F1J1F1J1F1J1F1J1F1J1F1",
      "J1F1J1F1J1F1J1F1J1F1J1F1J1F1J1F1J1F1J1F1J1F1J1F1J1F1J1F1J1F1J1F1J1F1J1F1J1F1J1F1J1F1J1F1J1",
      "F1J1F1J1F1J1F1J1F1J1F1J1F1J1F1J1F1J1F1J1F1J1F1J1F1J1F1J1F1J1F1J1F1J1F1J1F1J1F1J1F1J1F1J1F1",
      "J1F1J1F1J1F1J1F1J1F1J1F1J1F1J1F1J1F1J1F1J1F1J1F1J1F9J1F1J1F1J1F1J1F1J1F1J1F1J1F1J1F1J1F1J1",
      "F1J1F1J1F1J1F1J1F1J1F1J1F1J1F1J1F1J1F1J1F1J1F1J1F1J1F1J1F1J1F1J1F1J1F1J1F1J1F1J1F1J1F1J1F1",
      "J1F1J1F1J1F1J1F1J1F1J1F1J1F1J1F1J1F1J1F1J1F1J1F1J1F1J1F1J1F1J1F1J1F9J8F6C2J6C2F8J8F8J8F6C2",
      "J6C2F8C1J1C1J1C1J1C1J1F8J8FeC2F8I8F8I8F8I8F5C1F2J4I1Y1F1Y3F3C1F2J4I1Y3F4C2F2J4C1Y3F8J5Y3C2",
      "F3C1F2J4I1Y2C1-bB5R6V2U1T1W1U2T1W1U1V8*1/1B5-1V9U1T1V4Q2V3Z1W1S1VbZ1V1Q1Va-1B5C1BaP1G1C2P6",
      "Z3W1S1G1PaZ3W1S1C1GdC3XxCfMdL4M1L3McCf+2J1+4J1+2F1J3F2J3F1+1J1+2Z1J5+6J1+1J1+1J1+1J4+1F1J4",
      "F1H4F1+2F2J2Z5J1F4+1Z1+2F1+1PgOzJ1F1O4P1+2C4Z5+5Z2+4Z1+2Z1+2Z1+7Z1+vZ2+2Z1+1Z1+vZ7g+8W1S1W",
      "1S1+kZ2+7W1S1+29Z1+uZp+14Z6+1xCp+bClP1o+26Pm+53Z1+9Z1+1iZ8+33Z1+6wW1S1W1S1W1S1W1S1W1S1W1S1",
      "W1S1Pu+18Z5W1S1ZvW1S1W1S1W1S1W1S1W1S1Zg+74Z3nW1S1W1S1W1S1W1S1W1S1W1S1W1S1W1S1W1S1W1S1W1S1Z",
      "1rW1S1W1S1ZwW1S1Z76+1cZl+2Z6+13C2+wC1+2xJ1cF1cJ1F1J3F2J1F1J1F1J1F1J4F1J1F2J1F6G2J3F1J1F1J1",
      "F1J1F1J1F1J1F1J1F1J1F1J1F1J1F1J1F1J1F1J1F1J1F1J1F1J1F1J1F1J1F1J1F1J1F1J1F1J1F1J1F1J1F1J1F1",
      "J1F1J1F1J1F1J1F1J1F1J1F1J1F1J1F1J1F1J1F1J1F1J1F1J1F1J1F1J1F1J1F1J1F1J1F1J1F1J1F1J1F1J1F1J1",
      "F1J1F1J1F2+6J1F1J1F1M3J1F1C5V4P1V2F12C1F1C5F1C2H1kC7G1V1CeM1HnC9H7C1H7C1H7C1H7C1H7C1H7C1H7",
      "C1H7C1MwV2U1T1U1T1V3U1T1V1U1T1V9R1V2R1V1U1T1V2U1T1W1S1W1S1W1S1W1S1V5G1VaR2V4R1V1W1Vd+2V3W1",
      "S1W1S1W1S1W1S1R1Cy+qC1+2hCc+5yCq+cC4-1V3+1G1H1O1W1S1W1S1W1S1W1S1W1S1+2W1S1W1S1W1S1W1S1R1W1",
      "S2+1O9M4K2R1G5+2O3G1H1V1+2C1H2eC2M2Y2G2H1R1H2iV1G3H1C5H17C1H2mC1+2P4+aHw+10CcHg+vC1Pa+uP8+",
      "1Pf+wPa+13Pf+8wH534+1sHg7pG1HvrC3+1jC9H14G6V2H7gG1V3HgNaH2CkJ1F1J1F1J1F1J1F1J1F1J1F1J1F1J1",
      "F1J1F1J1F1J1F1J1F1J1F1J1F1J1F1J1F1J1F1J1F1J1F1J1F1J1F1J1F1J1F1H1M1L3V1MaV1G1J1F1J1F1J1F1J1",
      "F1J1F1J1F1J1F1J1F1J1F1J1F1J1F1J1F1J1F1J1F1G2M2H1yOaM2V6C8YnG9Y2J1F1J1F1J1F1J1F1J1F1J1F1J1F",
      "3J1F1J1F1J1F1J1F1J1F1J1F1J1F1J1F1J1F1J1F1J1F1J1F1J1F1J1F1J1F1J1F1J1F1J1F1J1F1J1F1J1F1J1F1J",
      "1F1J1F1J1F1J1F1J1F1J1F1J1F1J1F1J1F1G1F8J1F1J1F1J2F1J1F1J1F1J1F1J1F1G1Y2J1F1J1F1H1J1F1J1F3J",
      "1F1J1F1J1F1J1F1J1F1J1F1J1F1J1F1J1F1J1F1J5F1J5F1J1F1J1F1J1F1J1F1J1F1J1F1J1F1J4F1J1F1C5J1F1C",
      "1F1C1F1J1F1J1F1CoG3J1F1H1G2F1H7M1H3M1H4M1HnK2M2K1+4M1C3P6+2X1+1C6H1gV4C8K2H1eKgM2C8V2NaC6M",
      "iH6V3H1V1H2M1NaHsM8V2HnMbK2CbV1HtC3M3K1H1bM1K2M4K2M2K3VdC1G1NaC4V2H5M1G1H9NaH5C1H15M6K2M2K",
      "2M2C9H3M1H8M1K1C2NaC2V4HgG1H6+3H1K1M1K1H1eM1H1M3H2M2H5M2H1M1H1CoH2G1V2HbK1M2K2V2H1G2K1M1Ca",
      "H6C2H6C2H6C9H7C1H7C1F17Y1G4F9G1Y2C4F28HzK2M1K2M1K2V1K1M1C2NaC6H8mcCcHnC4H1dC4E1kwD4xsHa6C2",
      "H2yC12F7CcF5C5H1M1HaZ1HdC1H5C1H1C1H2C1H2C1H30YhCgHa3S1W1+gH1sC2H1iC7+1CwHcX1+3MgV7W1S1V1C6",
      "MgV1R2Q2W1S1W1S1W1S1W1S1W1S1W1S1W1S1W1S1V2W1S1V4Q3V3C1V4R1W1S1W1S1W1S1V3Z1R1Z3C1V1X1V2C4H5",
      "C1H3rC2B1C1V3X1V3W1S1V1Z1V1R1V2NaV2Z3V2JqW1V1S1Y1Q1Y1FqW1Z1S1Z1W1S1V1W1S1V2HaG1H19G2HvC3H6",
      "C2H6C2H6C2H3C3X2Z1Y1+1X2C1+1Z4+2CaB3+2C2HcC1HqC1HjC1H2C1HfC2HeCyH3fC5V3C4P19C3+9O1hP4+hP2+",
      "3C1+dC3+1C1b+19M1C3mHtC3H1dCfM1PrC4HwP4C9HkO1H8O1C5H12M5C5HuC1V1H10C4H8V1O5C16J14F14H26C2N",
      "aC6J10C4F10C4H14C8H1gCbV1JbC1JfC1J7C1J2C1FbC1FfC1F7C1F2C1vH8nC9HmCaH8CoG6C1G16C1G9C1xH6C2H",
      "1C1H18C1H2C3H1C2HnC1V1P8Hn+2P7HvC8P9C1cHjC1H2C5P5HmP6C3V1HqC5V1C1sH1kC4P2H2PgC2P1aH1M3C1M2",
      "C5M4H4C1H3C1HtC2M3C4M1P9C7V9C7HtP2V1HtP3CwH8+1HsM2C4P5V7C9H1iC3V7HmC2P8HjC5P8HiC7V4CcP7C28",
      "H21C1jJ1fCdF1fC7P6H10M4C8NaC86PvC1H16C1M2R1C2H2C23M3HtPaH1C8HmMbP4V5CmHiM4V4C12HlP7CkHnC9K",
      "1M1K1H1hMfV7C4PkNaM1H2M2H1C9M3K1H19K3M4K2M2V2B1V4M1CaB1C2HpC7NaC6M3H10M5K1M8C1NaV4H1K2H1C8",
      "HzM1V2H1C9M2K1H1cK3M9K2H4V4M4V1K1M1NaH1V1H1V3C1PkCbHiC1HpK3M3K2M1K1M2V6M1H2M1C1qH7C1H1C1H4",
      "C1HfC1HaV1C6H1bM1K3M8C5NaC6M2K2C1H8C2H2C2HmC1H7C1H2C1H5C1M2H1K2M1K4C2K2C2K3C2H1C6K1C5H5K2C",
      "2M7C3M5C3vH1hK3M8K2M3K1M1H4V5NaV2C1V1M1H3CuH1cK3M6K1M1K4M2K1M2H2V1H1C8NaC4mH1bK3M4C2K4M2K1",
      "M2VnH4M2CyH1cK3M8K2M1K1M2V3H1CbNaC6VdCjH17M1K1M1K2M6K1M1H1V1C6NaC1iHrC2M3K2M4K1M5C4NaP2V3+",
      "1H7C55H18K3M9K1M2V1C2sJwFwNaP9CcH8C2H1C2H8C1H2C1HoK6C1K2C2M2K1M1H1K1H1K1M1V3C9NaC1yH8C2H13",
      "K3M4C2M2K4M1H1V1H1K1CrH1MaH14M6K1H1M4V8M1C8H1M6K2M3H1aMdK1M2V3H1V5CdH21C7VaC6uH9C1H11K1M7C",
      "1M6K1M1H1V5CaNaPjC3V2HuC2MmC1K1M7K1M2K1M2C21H7C1H2C1H12M6C3M1C1M2C1M7H1M1C8NaC6H6C1H2C1HwK",
      "5C1M2C1K2M1K1M1H1C7NaC8mHjM2K2V2C7M2H1K1HdC1HyK2M5C3K2M1K1M1VdNaC2eH1CfPl+8X4+hCdV1HpmC2uO",
      "33C1V5CbH5gC218H2pV2CdHtsBgM1H6MfC33eHg7C6ntHftC7HvC1NaC4V2H27C1NaC6HuC2M5V1CaH1cM7V5+4G4V",
      "1+1CaNaC1P7C1HlC5HjCj4JwFwPnV4C2tH23C4M1H1K1jC7M4GdC1sG2V1G1M1CbK2CeH4qgC8HyeC16H9C6w7G4C1",
      "G7C1G2C1H83CfH1CtH3C2H1CeH4C8Hb0C1s4H2zC5HdC3H9C7HaC2+1M2V1B4C3mkM1aC2MnC9+38C1o+6uCa+13C2",
      "+1oK2M3+3K6B8M8+2M7+uM4+1pCl+1uM3+1C3ePkCcPkCc+2fC9PpC3rJqFqJqF7C1FiJqFqJ1C1J2C2J1C2J2C2J4",
      "C1J8F4C1F1C1F7C1FbJqFqJ2C1J4C2J8C1J7C1FqJ2C1J4C1J5C1J1C3J7C1FqJqFqJqFqJqFqJqFqJqFqJqFsC2Jp",
      "Z1FpZ1F6JpZ1FpZ1F6JpZ1FpZ1F6JpZ1FpZ1F6JpZ1FpZ1F6J1F1C2N1e+e8M1j+4M1e+8M1+eM1+2V5CfM5C1MfCu",
      "oFaH1FkC6F6C5xM7C1MhC2M7C1M2C1M5C5G1qCxM1C34H19C3M7G7C2NaC4H1+1C8wHuM1ChH18M4NaC5X1CcwHrG1",
      "M4NaCkmH7C1H4C1H2C1HfC1H5hC2P9M7C15JyFyM7G1C4NaC4V2CltP1n+1P3X1P4C24P19+1PfC5eH4C1HrC1H2C1",
      "H1C2H1C1HaC1H4C1H1C1H1C6H1C4H1C1H1C1H1C1H3C1H2C1H1C2H1C1H1C1H1C1H1C1H1C1H2C1H1C2H4C1H7C1H4",
      "C1H4C1H1C1HaC1HhC5H3C1H5C1HhC1gZ2C7i+18C4+2sCc+fC2+fC1+fC1+11CaPd+4hC1k+tCd+18C4+9C7+2Ce+6",
      "C4a+6zY5+k8C4+hC3+dC3+3bC4+2nC6+cC4+1Cf+cC4+1kC8+aC6+14C8+uC2+2C26+9gCc+eC2+dC3+9C7+1aC1+7",
      "C8+eC4+9C7+9C7+43C1+1jC11NaCsmHwyoCwH37eC6H66C2H4g2CeH5rlC2e7Hf2C15uH3t7C5H38gCf975B1CuB2o",
      "C3kM6oC1e6oD1ekeC2D1ekeC"])

/-- The names of each category or group, and the marks of its members. -/
def categoryNames : List (List String × String) :=
  [(["c", "other"], "ABCDE"),
    (["cc", "cntrl", "control"], "A"),
    (["cf", "format"], "B"),
    (["cn", "unassigned"], "C"),
    (["co", "privateuse"], "D"),
    (["l", "letter"], "FGHIJ"),
    (["casedletter", "lc"], "FIJ"),
    (["ll", "lowercaseletter"], "F"),
    (["lm", "modifierletter"], "G"),
    (["lo", "otherletter"], "H"),
    (["lt", "titlecaseletter"], "I"),
    (["lu", "uppercaseletter"], "J"),
    (["combiningmark", "m", "mark"], "KLM"),
    (["mc", "spacingmark"], "K"),
    (["enclosingmark", "me"], "L"),
    (["mn", "nonspacingmark"], "M"),
    (["n", "number"], "NOP"),
    (["decimalnumber", "digit", "nd"], "N"),
    (["letternumber", "nl"], "O"),
    (["no", "othernumber"], "P"),
    (["p", "punct", "punctuation"], "QRSTUVW"),
    (["connectorpunctuation", "pc"], "Q"),
    (["dashpunctuation", "pd"], "R"),
    (["closepunctuation", "pe"], "S"),
    (["finalpunctuation", "pf"], "T"),
    (["initialpunctuation", "pi"], "U"),
    (["otherpunctuation", "po"], "V"),
    (["openpunctuation", "ps"], "W"),
    (["s", "symbol"], "XYZ+"),
    (["currencysymbol", "sc"], "X"),
    (["modifiersymbol", "sk"], "Y"),
    (["mathsymbol", "sm"], "Z"),
    (["othersymbol", "so"], "+"),
    (["separator", "z"], "*/-"),
    (["lineseparator", "zl"], "*"),
    (["paragraphseparator", "zp"], "/"),
    (["spaceseparator", "zs"], "-")]

def categories? (name : String) : Option String :=
  (categoryNames.find? (·.1.contains name)).map (·.2)

/-- Whether a character has one of the marked categories. -/
def hasCategory (marks : String) (c : Char) : Bool :=
  (categoryMap.get? c).any fun mark => marks.toList.contains mark

/-- The categories of marks that combine with a letter, of decimal digits and of connectors. -/
def wordCategories : String := "MKLNQ"

/-- The category of decimal digits. -/
def digitCategory : String := "N"

/-- The categories of numbers. -/
def numberCategories : String := "NOP"

end BinaryCoverage.Unicode
